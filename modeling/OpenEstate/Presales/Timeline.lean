/-
**What has been sent to a person.**

The rows of what was sent stay with the applicant they were sent to. They are looked up under the
applicant that is left and those that were merged into it, but not under those that had been merged
into these before. What was sent to one of them is missing.

* `PresalesDb.TimelinesComplete` is what is to hold, `Shallow` that nothing was sent to an applicant
  two merges away; `timelinesComplete_iff_shallow`: these are the same;
* `timelinesComplete_iff`: in a run the timelines are complete at every point, exactly if nobody is
  merged away into whom somebody with a communication has been merged.
-/

import OpenEstate.Presales.Merge

namespace OpenEstate.Presales

open Relational
open Function (update update_self update_of_ne)

/-- **The timeline of a live applicant is complete**: it lists exactly what was sent to the applicant
and to all that were merged into it, directly or by way of others, each once. -/
def PresalesDb.TimelinesComplete (db : PresalesDb) : Prop :=
  ∀ companyId id, db.IsLive companyId id →
    ∃ logs, (getCommunicationTimeline companyId id).run db = .ok (logs, db) ∧
      (logs.map Prod.fst).Nodup ∧
      ∀ key log, (key, log) ∈ logs ↔
        db.communications.find? key = some log ∧ Below db.mergedInto log.applicantId id

/-- Nothing was sent to an applicant that is two merges away from another one. -/
def Shallow (db : PresalesDb) : Prop :=
  db.communications.All fun log =>
    ∀ target, db.mergedInto log.applicantId = some target → db.mergedInto target = none

/-- Merges are sound, and what was sent was sent to an applicant of the company. -/
structure TimelinesSound (db : PresalesDb) : Prop where
  merges : MergesSound db
  addressed : db.communications.All fun log =>
    ∃ applicant, db.applicant? log.companyId log.applicantId = some applicant

section Sound

variable {db after : PresalesDb} {companyId id : Nat}

/-! ### One timeline -/

theorem timeline_of_live (live : db.IsLive companyId id) :
    ∃ logs, (getCommunicationTimeline companyId id).run db = .ok (logs, db) ∧
      (logs.map Prod.fst).Nodup ∧ ∀ key log, (key, log) ∈ logs ↔
        db.communications.find? key = some log ∧ log.companyId = companyId ∧
          (log.applicantId = id ∨ ∃ applicant, db.applicant? companyId log.applicantId =
            some applicant ∧ applicant.mergedIntoId = some id) := by
  obtain ⟨applicant, found, _⟩ := live
  have asked : orThrow (db.applicant? companyId id) (ServiceError.notFound "Applicant not found") =
    Except.ok applicant := orThrow_eq_ok.mpr found
  refine ⟨_, Tx.run_query_bind_eq_ok.mpr ⟨applicant, asked, rfl⟩, ?_, fun key log => ?_⟩
  · rw [List.map_reverse, List.nodup_reverse]
    exact Table.select_nodup _ _
  · rw [List.mem_reverse, Table.mem_select]
    refine and_congr_right fun _ => ?_
    simp only [Bool.and_eq_true, beq_iff_eq, List.contains_iff_mem, List.mem_cons, List.mem_map]
    refine and_congr_right fun own => or_congr_right ?_
    constructor
    · rintro ⟨⟨_, other⟩, selected, rfl⟩
      obtain ⟨exists_, meets⟩ := Table.mem_select.mp selected
      simp only [Bool.and_eq_true, beq_iff_eq] at meets
      exact ⟨other, applicant?_eq_some.mpr ⟨exists_, meets.1⟩, meets.2⟩
    · rintro ⟨other, isOther, into⟩
      obtain ⟨exists_, ofCompany⟩ := applicant?_eq_some.mp isOther
      refine ⟨(log.applicantId, other), Table.mem_select.mpr ⟨exists_, ?_⟩, rfl⟩
      simp only [Bool.and_eq_true, beq_iff_eq]
      exact ⟨ofCompany, into⟩

theorem mergedInto_of_found {target : Option Nat} {applicant : Applicant}
    (found : db.applicant? companyId id = some applicant) :
    db.mergedInto id = target ↔ applicant.mergedIntoId = target := by
  rw [PresalesDb.mergedInto, (applicant?_eq_some.mp found).1]
  rfl

theorem company_of_found {company : Nat} {applicant other : Applicant}
    (found : db.applicant? company id = some applicant)
    (again : db.applicant? companyId id = some other) : company = companyId := by
  obtain ⟨isApplicant, own⟩ := applicant?_eq_some.mp found
  obtain ⟨isOther, ofOther⟩ := applicant?_eq_some.mp again
  obtain rfl := Option.some.inj (isApplicant.symm.trans isOther)
  exact own.symm.trans ofOther

/-- Where nothing was sent two merges away, an applicant with a communication is below another one
just by being it, or by being merged into it. -/
theorem Shallow.below_iff (shallow : Shallow db) {key : Nat} {log : CommunicationLog}
    (found : db.communications.find? key = some log) :
    Below db.mergedInto log.applicantId id ↔
      log.applicantId = id ∨ db.mergedInto log.applicantId = some id := by
  constructor
  · intro below
    rcases below.cases_head with same | ⟨target, into, rest⟩
    · exact Or.inl same
    · have isRoot := shallow key log found target into
      obtain rfl := Below.eq_of_root rest isRoot
      exact Or.inr into
  · rintro (rfl | into)
    · exact .refl
    · exact .single into

/-- **Timelines are complete exactly if nothing was sent to an applicant two merges away.** -/
theorem timelinesComplete_iff_shallow (sound : TimelinesSound db) :
    db.TimelinesComplete ↔ Shallow db := by
  constructor
  · intro complete key log found target into
    obtain ⟨applicant, isApplicant⟩ := sound.addressed key log found
    -- look at the timeline of the applicant at the end of the chain
    obtain ⟨root, below, isRoot⟩ := sound.merges.forest log.applicantId
    obtain ⟨last, isLast⟩ := sound.merges.above isApplicant below
    have live := live_of_root isLast isRoot
    obtain ⟨logs, ran, _, lists⟩ := complete _ root live
    obtain ⟨listed, ranToo, _, listsToo⟩ := timeline_of_live live
    rw [ran] at ranToo
    cases ranToo
    obtain ⟨_, _, near⟩ := (listsToo key log).mp ((lists key log).mpr ⟨found, below⟩)
    rcases near with same | ⟨other, isOther, intoRoot⟩
    · rw [same, isRoot] at into
      cases into
    · rw [(mergedInto_of_found isOther).mpr intoRoot] at into
      cases into
      exact isRoot
  · intro shallow companyId id live
    obtain ⟨logs, ran, nodup, lists⟩ := timeline_of_live live
    refine ⟨logs, ran, nodup, fun key log => (lists key log).trans (and_congr_right fun found => ?_)⟩
    obtain ⟨applicant, isApplicant⟩ := sound.addressed key log found
    rw [shallow.below_iff found]
    constructor
    · rintro ⟨_, rfl | ⟨other, isOther, into⟩⟩
      · exact Or.inl rfl
      · exact Or.inr ((mergedInto_of_found isOther).mpr into)
    · intro near
      have own : log.companyId = companyId := by
        have below := (shallow.below_iff found).mpr near
        obtain ⟨above, isAbove⟩ := sound.merges.above isApplicant below
        obtain ⟨alive, isAlive, _⟩ := live
        exact company_of_found isAbove isAlive
      refine ⟨own, near.imp_right fun into => ⟨applicant, ?_, ?_⟩⟩
      · rwa [← own]
      · exact (mergedInto_of_found isApplicant).mp into

/-! ### What disturbs a timeline -/

/-- The applicants stay with what they were merged into, and nothing is sent. -/
structure Undisturbed (db after : PresalesDb) : Prop where
  applicants : ∀ companyId id applicant, db.applicant? companyId id = some applicant →
    after.applicant? companyId id = some applicant
  mergedInto : after.mergedInto = db.mergedInto
  communications : after.communications = db.communications

theorem Undisturbed.trans {middle : PresalesDb} (first : Undisturbed db middle)
    (second : Undisturbed middle after) : Undisturbed db after :=
  ⟨fun company id applicant found =>
      second.applicants company id applicant (first.applicants company id applicant found),
    second.mergedInto.trans first.mergedInto, second.communications.trans first.communications⟩

theorem Undisturbed.of_same (applicants : after.applicants = db.applicants)
    (communications : after.communications = db.communications) : Undisturbed db after := by
  refine ⟨fun company id applicant found => ?_, ?_, communications⟩
  · rwa [PresalesDb.applicant?, applicants]
  · funext id
    rw [PresalesDb.mergedInto, applicants]
    rfl

theorem Intake.undisturbed {requested : Option Nat} (intake : Intake companyId requested db after) :
    Undisturbed db after := by
  induction intake with
  | start => exact .of_same rfl rfl
  | pools _ pools ih => exact ih.trans (.of_same rfl rfl)
  | applicant _ own live ih =>
    refine ih.trans ⟨fun _ _ _ found => applicant?_insertApplicant found, ?_, rfl⟩
    exact mergedInto_insertApplicant live
  | opened _ opens changedById ih => exact ih.trans (.of_same rfl rfl)
  | assigned _ row ih => exact ih.trans (.of_same rfl rfl)

theorem Reassigned.undisturbed {stageId actorId : Nat} {asked : Option Nat}
    (reassigned : Reassigned db companyId stageId asked actorId after) : Undisturbed db after := by
  cases reassigned with
  | nobody none => exact .of_same rfl rfl
  | moved some_ given other found => exact .of_same rfl rfl

variable {op : PresalesOp}

theorem Effect.undisturbed (effect : Effect db companyId op after) :
    (Undisturbed db after ∧ ∀ survivorId mergedId actorId, op ≠ .merge survivorId mergedId actorId) ∨
    (∃ survivorId mergedId actorId, op = .merge survivorId mergedId actorId ∧
      survivorId ≠ mergedId ∧ db.IsLive companyId survivorId ∧ db.IsLive companyId mergedId ∧
      after = db.merge companyId survivorId mergedId actorId) ∨
    (∃ applicantId inquiryId dto actorId log, op = .send applicantId inquiryId dto actorId ∧
      db.IsLive companyId log.applicantId ∧ log.companyId = companyId ∧
      after = db.insertCommunication log) := by
  cases effect with
  | takenIn takesIn intake =>
    refine Or.inl ⟨intake.undisturbed, ?_⟩
    rintro survivorId mergedId actorId rfl
    exact takesIn
  | created found opens rest =>
    exact Or.inl ⟨(found.opened opens _).undisturbed.trans rest.undisturbed, nofun⟩
  | updated found own staged now => exact Or.inl ⟨.of_same rfl rfl, nofun⟩
  | attached found of_ from_ to_ bookings now =>
    refine Or.inl ⟨?_, nofun⟩
    unfold PresalesDb.convert
    split
    · exact .of_same rfl rfl
    · exact .of_same rfl rfl
  | @followed _ dto _ _ inquiry found followUp =>
    refine Or.inl ⟨?_, nofun⟩
    cases dto.nextActionAt with
    | none => exact .of_same rfl rfl
    | some at_ => exact .of_same rfl rfl
  | stageCreated dto =>
    refine Or.inl ⟨?_, nofun⟩
    split
    · exact .of_same rfl rfl
    · exact .of_same rfl rfl
  | @stageUpdated _ _ dto existing moved found allowed moves =>
    have movedSame : Undisturbed db moved := by
      split at moves
      · exact moves.undisturbed
      · rw [moves]
        exact .of_same rfl rfl
    refine Or.inl ⟨movedSame.trans ?_, nofun⟩
    split
    · exact .of_same rfl rfl
    · exact .of_same rfl rfl
  | merged different survivor merged =>
    exact Or.inr (Or.inl ⟨_, _, _, rfl, different, survivor, merged, rfl⟩)
  | sent live own to_ =>
    subst to_
    exact Or.inr (Or.inr ⟨_, _, _, _, _, rfl, live, own, rfl⟩)

theorem TimelinesSound.effect (sound : TimelinesSound db)
    (effect : Effect db companyId op after) : TimelinesSound after := by
  refine ⟨sound.merges.effect effect, ?_⟩
  rcases effect.undisturbed with ⟨same, _⟩ | ⟨_, _, _, _, _, _, _, rfl⟩ |
    ⟨_, _, _, _, _, _, live, own, rfl⟩
  · rw [same.communications]
    refine sound.addressed.imp fun log addressed => ?_
    obtain ⟨applicant, found⟩ := addressed
    exact ⟨applicant, same.applicants _ _ _ found⟩
  · refine sound.addressed.imp fun log addressed => ?_
    obtain ⟨applicant, found⟩ := addressed
    obtain ⟨later, isLater, _⟩ := applicant?_merge found
    exact ⟨later, isLater⟩
  · refine Table.all_create.mpr ⟨sound.addressed, ?_⟩
    obtain ⟨applicant, found, _⟩ := live
    rw [own]
    exact ⟨applicant, found⟩

/-! ### What keeps them complete -/

/-- A merge takes nobody away into whom somebody with a communication has been merged. -/
def KeepsTimelines (db : PresalesDb) : PresalesOp → Prop
  | .merge _ mergedId _ =>
    db.communications.All fun log => db.mergedInto log.applicantId ≠ some mergedId
  | _ => True

theorem keepsTimelines_of_ne
    (notMerge : ∀ survivorId mergedId actorId, op ≠ .merge survivorId mergedId actorId) :
    KeepsTimelines db op := by
  cases op with
  | merge survivorId mergedId actorId => exact absurd rfl (notMerge survivorId mergedId actorId)
  | _ => trivial

theorem shallow_merge_iff {survivorId mergedId : Nat} {actorId : Option Nat}
    (shallow : Shallow db) (different : survivorId ≠ mergedId)
    (survivor : db.IsLive companyId survivorId) (merged : db.IsLive companyId mergedId) :
    Shallow (db.merge companyId survivorId mergedId actorId) ↔
      KeepsTimelines db (.merge survivorId mergedId actorId) := by
  have sameLogs : (db.merge companyId survivorId mergedId actorId).communications =
    db.communications := rfl
  unfold Shallow
  rw [mergedInto_merge merged, sameLogs]
  constructor
  · intro keeps key log found into
    have root := mergedInto_of_live merged
    have apart : log.applicantId ≠ mergedId := by
      intro same
      rw [same, root] at into
      cases into
    have last := keeps key log found mergedId (by rwa [update_of_ne apart])
    rw [update_self] at last
    cases last
  · intro keeps key log found target into
    by_cases same : log.applicantId = mergedId
    · -- what was sent to the one that is merged away is one merge away
      rw [same, update_self] at into
      obtain rfl := Option.some.inj into
      rw [update_of_ne different]
      exact mergedInto_of_live survivor
    · rw [update_of_ne same] at into
      have apart : target ≠ mergedId := by
        rintro rfl
        exact keeps key log found into
      rw [update_of_ne apart]
      exact shallow key log found target into

theorem shallow_effect_iff (shallow : Shallow db)
    (effect : Effect db companyId op after) : Shallow after ↔ KeepsTimelines db op := by
  rcases effect.undisturbed with ⟨same, notMerge⟩ | ⟨_, _, _, rfl, different, survivor, merged, rfl⟩ |
    ⟨_, _, _, _, log, rfl, live, own, rfl⟩
  · refine iff_of_true ?_ (keepsTimelines_of_ne notMerge)
    unfold Shallow
    rwa [same.communications, same.mergedInto]
  · exact shallow_merge_iff shallow different survivor merged
  · refine iff_of_true (Table.all_create.mpr ⟨shallow, fun target into => ?_⟩) trivial
    have root : db.mergedInto log.applicantId = none := mergedInto_of_live live
    have into : db.mergedInto log.applicantId = some target := into
    rw [root] at into
    cases into

end Sound

/-! ### Runs -/

theorem PresalesDb.IsNew.timelinesSound {start : PresalesDb} (isNew : start.IsNew) :
    TimelinesSound start := by
  refine ⟨isNew.mergesSound, ?_⟩
  rw [isNew.communications]
  exact .empty

theorem timelinesSound_of_reachable {toLowerCase : String → String} {start db : PresalesDb}
    (isNew : start.IsNew) (reachable : Reachable (execPresales toLowerCase) start db) :
    TimelinesSound db :=
  reachable.invariant isNew.timelinesSound fun _ _ _ sound accepted =>
    sound.effect (effect_of_exec accepted)

/-- **In a run the timelines are complete at every point, exactly if nobody is merged away into whom
somebody with a communication has been merged.** -/
theorem timelinesComplete_iff (toLowerCase : String → String) {start : PresalesDb}
    (isNew : start.IsNew) (requests : List PresalesRequest) :
    (∀ db ∈ states (execPresales toLowerCase) start requests, db.TimelinesComplete) ↔
      ∀ step ∈ steps (execPresales toLowerCase) start requests,
        KeepsTimelines step.before step.input.op := by
  have sound := isNew.timelinesSound
  have complete : start.TimelinesComplete := by
    refine (timelinesComplete_iff_shallow sound).mpr ?_
    unfold Shallow
    rw [isNew.communications]
    exact .empty
  refine forall_states_iff (fun _ _ _ sound accepted => sound.effect (effect_of_exec accepted))
    (fun request db after sound complete accepted => ?_) requests sound complete
  have effect := effect_of_exec accepted
  have shallow := (timelinesComplete_iff_shallow sound).mp complete
  rw [timelinesComplete_iff_shallow (sound.effect effect)]
  exact shallow_effect_iff shallow effect

/-- Three applicants; something is sent to the first, who is merged into the second. -/
def sentMerged : List PresalesRequest :=
  [{ companyId := 1, op := .createApplicant { name := "Asha", primaryPhone := "9800000001" } },
    { companyId := 1, op := .createApplicant { name := "A. Rao", primaryPhone := "9800000002" } },
    { companyId := 1, op := .createApplicant { name := "Asha Rao", primaryPhone := "9800000003" } },
    { companyId := 1, op := .send 0 none { channel := .sms, body := "Welcome" } (some 2) },
    { companyId := 1, op := .merge 1 0 (some 2) }]

theorem timelinesComplete_sentMerged :
    (∀ db ∈ states (execPresales id) {} sentMerged, db.TimelinesComplete) ↔
      ∀ step ∈ steps (execPresales id) {} sentMerged, KeepsTimelines step.before step.input.op :=
  timelinesComplete_iff id PresalesDb.isNew_empty sentMerged

def sentMergedTwice : List PresalesRequest :=
  sentMerged ++ [{ companyId := 1, op := .merge 2 1 (some 2) }]

/-- **What was sent to the first is missing from the timeline of the third.** -/
theorem timeline_incomplete :
    ¬∀ requests, ∀ db ∈ states (execPresales id) {} requests, db.TimelinesComplete := by
  intro complete
  have sound : TimelinesSound (run (execPresales id) {} sentMergedTwice) :=
    timelinesSound_of_reachable PresalesDb.isNew_empty (reachable_run _ _)
  have shallow := (timelinesComplete_iff_shallow sound).mp
    (complete sentMergedTwice _ (run_mem_states _ _))
  have root : (run (execPresales id) {} sentMergedTwice).mergedInto 1 = none :=
    shallow 0 _ rfl 1 rfl
  cases root

end OpenEstate.Presales
