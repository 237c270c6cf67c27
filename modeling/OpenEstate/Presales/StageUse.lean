/-
**The stages that are in use.**

A company has one default stage at most, that is active, and nobody who is active is in a stage that
is not. The first is kept by every operation. The others are not: a stage can be made the default
one while it is switched off, and inquiries can be put, moved or brought back into one.

* `StagesKnown` holds throughout; `StagesInUse` is what is to hold;
* `KeepsStagesActive` is what an operation must not do; `stagesInUse_effect`: exactly that keeps it;
* `stagesInUse_iff` is the same of whole runs.
-/

import OpenEstate.Presales.System

namespace OpenEstate.Presales

open Relational

/-! ### Stages and those in them -/

def OneDefault (stages : Table LeadStage) : Prop :=
  ∀ first second firstStage secondStage, stages.find? first = some firstStage →
    stages.find? second = some secondStage → firstStage.companyId = secondStage.companyId →
    firstStage.isDefault = true → secondStage.isDefault = true → first = second

def LeadStage.DefaultActive (stage : LeadStage) : Prop :=
  stage.isDefault = true → stage.isActive = true

def StageKnown (stages : Table LeadStage) (inquiry : Inquiry) : Prop :=
  ∀ stageId, inquiry.stageId = some stageId →
    ∃ stage, stages.find? stageId = some stage ∧ stage.companyId = inquiry.companyId

def StageActive (stages : Table LeadStage) (inquiry : Inquiry) : Prop :=
  inquiry.status.isActive = true → ∀ stageId stage, inquiry.stageId = some stageId →
    stages.find? stageId = some stage → stage.isActive = true

/-- **Stages in use are active.** -/
structure PresalesDb.StagesInUse (db : PresalesDb) : Prop where
  oneDefault : OneDefault db.leadStages
  defaultActive : db.leadStages.All LeadStage.DefaultActive
  occupiedActive : db.inquiries.All (StageActive db.leadStages)

structure StagesKnown (db : PresalesDb) : Prop where
  oneDefault : OneDefault db.leadStages
  known : db.inquiries.All (StageKnown db.leadStages)

/-- What an operation of a company may do without a stage in use becoming inactive. -/
def KeepsStagesActive (db : PresalesDb) (companyId : Nat) : PresalesOp → Prop
  | .createLeadStage dto => dto.isDefault = true → dto.isActive = true
  | .updateLeadStage id dto _ => ∀ existing, db.leadStage? companyId id = some existing →
      (dto.isDefault = some true → dto.isActive.getD existing.isActive = true) ∧
      (dto.isDeactivating existing = true → db.occupants companyId id ≠ [] →
        ∀ target stage, dto.reassignToStageId = some target →
          db.leadStages.find? target = some stage → stage.isActive = true)
  | .createInquiry dto _ => ∀ stageId stage, dto.stageId = some stageId →
      db.leadStages.find? stageId = some stage → stage.isActive = true
  | .updateInquiry id dto _ _ => ∀ existing, db.inquiries.find? id = some existing →
      (dto.status.getD existing.status).isActive = true → ∀ stageId stage,
        dto.stageId.or existing.stageId = some stageId →
          db.leadStages.find? stageId = some stage → stage.isActive = true
  | _ => True

section Stages

variable {db after moved : PresalesDb} {companyId : Nat}

/-! ### Clearing and rewriting stages -/

/-- What is left of the stages when the default ones of a company, but for one, are cleared, if that
is to happen. -/
structure Clears (default : Prop) (companyId : Nat) (except : Option Nat) (db cleared : PresalesDb) :
    Prop where
  inquiries : cleared.inquiries = db.inquiries
  nextId : cleared.leadStages.nextId = db.leadStages.nextId
  was : ∀ id stage, cleared.leadStages.find? id = some stage →
    ∃ was, db.leadStages.find? id = some was ∧ stage.companyId = was.companyId ∧
      stage.isActive = was.isActive ∧ (stage.isDefault = true → was.isDefault = true ∧
        (default → was.companyId = companyId → except = some id))
  stays : ∀ id was, db.leadStages.find? id = some was →
    ∃ stage, cleared.leadStages.find? id = some stage ∧ stage.companyId = was.companyId ∧
      stage.isActive = was.isActive

theorem clears (default : Prop) [Decidable default] (companyId : Nat) (except : Option Nat)
    (db : PresalesDb) :
    Clears default companyId except db
      (if default then db.clearDefaults companyId except else db) := by
  split
  · refine ⟨rfl, rfl, fun id stage found => ?_, fun id was found => ?_⟩
    · rw [PresalesDb.clearDefaults, Table.find?_modifyAll, Option.map_eq_some_iff] at found
      obtain ⟨was, wasFound, rfl⟩ := found
      refine ⟨was, wasFound, ?_⟩
      split
      · exact ⟨rfl, rfl, nofun⟩
      · rename_i kept
        refine ⟨rfl, rfl, fun isDefault => ⟨isDefault, fun _ own => ?_⟩⟩
        by_contra other
        exact kept (by simp [own, isDefault, other])
    · refine ⟨_, (Table.find?_modifyAll ..).trans (congrArg (Option.map _) found), ?_⟩
      dsimp only
      split
      · exact ⟨rfl, rfl⟩
      · exact ⟨rfl, rfl⟩
  · refine ⟨rfl, rfl, fun id stage found => ?_, fun id was found => ⟨was, found, rfl, rfl⟩⟩
    exact ⟨stage, found, rfl, rfl, fun isDefault => ⟨isDefault, fun is => absurd is ‹_›⟩⟩

variable {inquiry : Inquiry}

theorem StageKnown.mono {stages later : Table LeadStage}
    (stays : ∀ id was, stages.find? id = some was →
      ∃ stage, later.find? id = some stage ∧ stage.companyId = was.companyId)
    (known : StageKnown stages inquiry) : StageKnown later inquiry := by
  intro stageId is
  obtain ⟨was, found, own⟩ := known stageId is
  obtain ⟨stage, later, same⟩ := stays stageId was found
  exact ⟨stage, later, same.trans own⟩

theorem StageActive.mono {stages later : Table LeadStage} (known : StageKnown stages inquiry)
    (stays : ∀ id was stage, inquiry.stageId = some id → stages.find? id = some was →
      later.find? id = some stage → was.isActive = true → stage.isActive = true)
    (active : StageActive stages inquiry) : StageActive later inquiry := by
  intro works stageId stage is found
  obtain ⟨was, wasFound, _⟩ := known stageId is
  exact stays stageId was stage is wasFound found (active works stageId was is wasFound)

/-! ### Intakes -/

variable {requested : Option Nat}

theorem Opens.known
    (opens : Opens db companyId requested inquiry) : StageKnown db.leadStages inquiry := by
  intro stageId is
  obtain ⟨stage, found⟩ := opens.startsIn.found stageId is
  obtain ⟨exists_, own⟩ := leadStage?_eq_some.mp found
  exact ⟨stage, exists_, own.trans opens.company.symm⟩

theorem Opens.active (opens : Opens db companyId requested inquiry)
    (defaultActive : db.leadStages.All LeadStage.DefaultActive)
    (asked : ∀ stageId stage, requested = some stageId → db.leadStages.find? stageId = some stage →
      stage.isActive = true) : StageActive db.leadStages inquiry := by
  intro _ stageId stage is found
  rw [opens.startsIn.asked] at is
  cases requested with
  | some requested => exact asked stageId stage is found
  | none =>
    obtain ⟨isStage, same, isDefault⟩ := defaultStage_eq_some is
    rw [(leadStage?_eq_some.mp same).1] at found
    cases found
    exact defaultActive stageId stage (leadStage?_eq_some.mp same).1 isDefault

/-- **An intake puts everybody in known stages**, and in active ones unless another was requested. -/
theorem Intake.all {holds : Inquiry → Prop} (intake : Intake companyId requested db after)
    (all : db.inquiries.All holds)
    (opened : ∀ now inquiry, now.leadStages = db.leadStages → Opens now companyId requested inquiry →
      holds inquiry)
    (assigned : ∀ inquiry userId, holds inquiry → holds { inquiry with assignedToId := userId }) :
    after.inquiries.All holds := by
  induction intake with
  | start => exact all
  | pools _ pools ih => exact ih
  | applicant _ own live ih => exact ih
  | opened earlier opens changedById ih =>
    exact Table.all_create.mpr ⟨ih, opened _ _ earlier.leadStages opens⟩
  | assigned _ row ih => exact ih.modify fun inquiry _ holds => assigned inquiry _ holds

theorem StagesKnown.intake (known : StagesKnown db)
    (intake : Intake companyId requested db after) : StagesKnown after := by
  constructor
  · rw [intake.leadStages]
    exact known.oneDefault
  · rw [intake.leadStages]
    refine intake.all known.known (fun now inquiry same opens => ?_) fun _ _ holds => holds
    rw [← same]
    exact opens.known

theorem PresalesDb.StagesInUse.intake (inUse : db.StagesInUse)
    (intake : Intake companyId requested db after)
    (asked : ∀ stageId stage, requested = some stageId → db.leadStages.find? stageId = some stage →
      stage.isActive = true) : after.StagesInUse := by
  constructor
  · rw [intake.leadStages]
    exact inUse.oneDefault
  · rw [intake.leadStages]
    exact inUse.defaultActive
  · rw [intake.leadStages]
    refine intake.all inUse.occupiedActive (fun now inquiry same opens => ?_) fun _ _ holds => holds
    rw [← same]
    refine opens.active ?_ ?_
    · rw [same]
      exact inUse.defaultActive
    · rw [same]
      exact asked

theorem Intake.stays (intake : Intake companyId requested db after) {id : Nat}
    (found : db.inquiries.find? id = some inquiry) :
    ∃ later, after.inquiries.find? id = some later ∧ later.status = inquiry.status ∧
      later.stageId = inquiry.stageId := by
  induction intake with
  | start => exact ⟨inquiry, found, rfl, rfl⟩
  | pools _ pools ih => exact ih
  | applicant _ own live ih => exact ih
  | opened _ opens changedById ih =>
    obtain ⟨later, there, status, stage⟩ := ih
    exact ⟨later, Table.find?_create_old _ there, status, stage⟩
  | @assigned now _ row ih =>
    obtain ⟨later, there, status, stage⟩ := ih
    have moved : (now.assign row).inquiries.find? id = _ := Table.find?_modify ..
    rw [moved]
    split
    · rw [there]
      exact ⟨_, rfl, status, stage⟩
    · exact ⟨later, there, status, stage⟩

theorem exists_created {changedById : Option Nat} {middle : PresalesDb} {stageId : Nat}
    (asked : requested = some stageId) (opens : Opens middle companyId requested inquiry)
    (rest : Intake companyId requested (middle.openInquiry inquiry changedById) after) :
    ∃ id later, after.inquiries.find? id = some later ∧ later.status.isActive = true ∧
      later.stageId = some stageId := by
  have new : (middle.openInquiry inquiry changedById).inquiries.find? middle.inquiries.nextId =
      some inquiry := Table.find?_create_self _ _
  obtain ⟨later, there, status, stage⟩ := rest.stays new
  refine ⟨_, later, there, ?_, ?_⟩
  · rw [status, opens.status]
    rfl
  · rw [stage, opens.startsIn.asked, asked]
    rfl

/-! ### Updates -/

theorem StagesKnown.update {id now actorId : Nat} {dto : UpdateInquiryDto} {existing : Inquiry}
    (known : StagesKnown db) (found : db.inquiries.find? id = some existing)
    (own : existing.companyId = companyId)
    (staged : ∀ stageId, dto.newStage existing = some stageId →
      ∃ stage, db.leadStage? companyId stageId = some stage) :
    StagesKnown (db.update now companyId id dto existing actorId) := by
  refine ⟨known.oneDefault, known.known.modify fun inquiry same holds => ?_⟩
  obtain rfl := Option.some.inj (found.symm.trans same)
  intro stageId is
  have is : dto.stageId.or existing.stageId = some stageId := is
  rw [newStage_or] at is
  cases new : dto.newStage existing with
  | none =>
    rw [new] at is
    exact holds stageId is
  | some other =>
    rw [new] at is
    cases is
    obtain ⟨stage, there⟩ := staged stageId new
    obtain ⟨exists_, ofCompany⟩ := leadStage?_eq_some.mp there
    exact ⟨stage, exists_, ofCompany.trans own.symm⟩

/-- **An update keeps everybody in active stages exactly if it does not leave its inquiry, active, in
an inactive one.** -/
theorem stagesInUse_update {id now actorId : Nat} {dto : UpdateInquiryDto} {existing : Inquiry}
    {scope : InquiryScope} (inUse : db.StagesInUse)
    (found : db.inquiries.find? id = some existing) :
    (db.update now companyId id dto existing actorId).StagesInUse ↔
      KeepsStagesActive db companyId (.updateInquiry id dto scope actorId) := by
  constructor
  · intro still other same works stageId stage is there
    obtain rfl := Option.some.inj (found.symm.trans same)
    have written : (db.update now companyId id dto existing actorId).inquiries.find? id =
        some (dto.write existing now existing) :=
      (Table.find?_modify_self ..).trans (congrArg (Option.map _) found)
    exact still.occupiedActive id _ written works stageId stage is there
  · intro keeps
    refine ⟨inUse.oneDefault, inUse.defaultActive, ?_⟩
    refine inUse.occupiedActive.modify fun inquiry same _ works stageId stage is there => ?_
    obtain rfl := Option.some.inj (found.symm.trans same)
    exact keeps existing found works stageId stage is there

theorem Clears.oneDefault {default : Prop} {except : Option Nat} {cleared : PresalesDb}
    (clears : Clears default companyId except db cleared) (one : OneDefault db.leadStages) :
    OneDefault cleared.leadStages := by
  intro first second firstStage secondStage isFirst isSecond same firstDefault secondDefault
  obtain ⟨was, isWas, own, _, left⟩ := clears.was _ _ isFirst
  obtain ⟨other, isOther, ownToo, _, leftToo⟩ := clears.was _ _ isSecond
  exact one first second was other isWas isOther (own.symm.trans (same.trans ownToo))
    (left firstDefault).1 (leftToo secondDefault).1

/-! ### New stages -/

section NewStage

variable {row : LeadStage} {cleared : PresalesDb}

theorem StagesKnown.insertStage (known : StagesKnown db)
    (clears : Clears (row.isDefault = true) row.companyId none db cleared) :
    StagesKnown (cleared.insertStage row) := by
  constructor
  · intro first second firstStage secondStage isFirst isSecond same firstDefault secondDefault
    rcases Table.find?_create_eq_some.mp isFirst with ⟨rfl, rfl⟩ | oldFirst
    · rcases Table.find?_create_eq_some.mp isSecond with ⟨rfl, rfl⟩ | oldSecond
      · rfl
      · obtain ⟨was, _, own, _, left⟩ := clears.was _ _ oldSecond
        have kept := (left secondDefault).2 firstDefault (own.symm.trans same.symm)
        cases kept
    · rcases Table.find?_create_eq_some.mp isSecond with ⟨rfl, rfl⟩ | oldSecond
      · obtain ⟨was, _, own, _, left⟩ := clears.was _ _ oldFirst
        have kept := (left firstDefault).2 secondDefault (own.symm.trans same)
        cases kept
      · exact clears.oneDefault known.oneDefault first second _ _ oldFirst oldSecond same firstDefault
          secondDefault
  · have all := known.known
    rw [← clears.inquiries] at all
    refine all.imp fun inquiry holds => holds.mono fun id was found => ?_
    obtain ⟨stage, there, own, _⟩ := clears.stays id was found
    exact ⟨stage, Table.find?_create_old row there, own⟩

/-- **A new stage keeps stages in use active exactly if it is not an inactive default one.** -/
theorem stagesInUse_insertStage (known : StagesKnown db) (inUse : db.StagesInUse)
    (clears : Clears (row.isDefault = true) row.companyId none db cleared) :
    (cleared.insertStage row).StagesInUse ↔ row.DefaultActive := by
  constructor
  · exact fun still => (Table.all_create.mp still.defaultActive).2
  · intro keeps
    refine ⟨(known.insertStage clears).oneDefault, Table.all_create.mpr ⟨?_, keeps⟩, ?_⟩
    · intro id stage found isDefault
      obtain ⟨was, isWas, _, active, left⟩ := clears.was id stage found
      rw [active]
      exact inUse.defaultActive id was isWas (left isDefault).1
    · intro id inquiry found
      have found : cleared.inquiries.find? id = some inquiry := found
      rw [clears.inquiries] at found
      refine (inUse.occupiedActive id inquiry found).mono (known.known id inquiry found) ?_
      intro stageId was stage _ isWas isStage active
      rcases Table.find?_create_eq_some.mp isStage with ⟨rfl, _⟩ | old
      · have older := Table.lt_nextId isWas
        rw [← clears.nextId] at older
        exact absurd older (Nat.lt_irrefl _)
      · obtain ⟨other, isOther, _, same, _⟩ := clears.was stageId stage old
        obtain rfl := Option.some.inj (isWas.symm.trans isOther)
        rwa [same]

end NewStage

/-! ### Changes of a stage -/

section Change

variable {id actorId : Nat} {dto : UpdateLeadStageDto} {existing : LeadStage} {cleared : PresalesDb}
variable {asked : Option Nat}

theorem StagesKnown.reassigned (known : StagesKnown db)
    (reassigned : Reassigned db companyId id asked actorId moved) :
    moved.leadStages = db.leadStages ∧ StagesKnown moved := by
  cases reassigned with
  | nobody none => exact ⟨rfl, known⟩
  | @moved target stage some_ given other found =>
    refine ⟨rfl, known.oneDefault, known.known.modifyAll fun key inquiry there occupies _ => ?_⟩
    intro stageId is
    cases is
    obtain ⟨exists_, own⟩ := leadStage?_eq_some.mp found
    refine ⟨stage, exists_, own.trans ?_⟩
    obtain ⟨occupant, same, ofCompany, _⟩ := mem_occupants.mp (of_decide_eq_true occupies)
    obtain rfl := Option.some.inj (there.symm.trans same)
    exact ofCompany.symm

theorem find?_updateStage {key : Nat} {stage : LeadStage} :
    (cleared.updateStage id dto.write).leadStages.find? key = some stage ↔
      (key = id ∧ ∃ before, cleared.leadStages.find? id = some before ∧ dto.write before = stage) ∨
        (key ≠ id ∧ cleared.leadStages.find? key = some stage) :=
  Table.find?_modify_eq_some

theorem no_other_default (one : OneDefault db.leadStages)
    (clears : Clears (dto.isDefault = some true) companyId (some id) db cleared)
    (found : db.leadStage? companyId id = some existing) {before other : LeadStage} {key : Nat}
    (isBefore : cleared.leadStages.find? id = some before)
    (isOther : cleared.leadStages.find? key = some other) (different : key ≠ id)
    (same : other.companyId = before.companyId) (isDefault : (dto.write before).isDefault = true)
    (otherDefault : other.isDefault = true) : False := by
  obtain ⟨exists_, own⟩ := leadStage?_eq_some.mp found
  obtain ⟨was, isWas, ofWas, _, left⟩ := clears.was id before isBefore
  obtain ⟨otherWas, isOtherWas, ofOther, _, otherLeft⟩ := clears.was key other isOther
  obtain rfl := Option.some.inj (exists_.symm.trans isWas)
  obtain ⟨wasDefault, kept⟩ := otherLeft otherDefault
  have company : otherWas.companyId = existing.companyId := ofOther.symm.trans (same.trans ofWas)
  cases asked : dto.isDefault with
  | none =>
    have isDefault : dto.isDefault.getD before.isDefault = true := isDefault
    rw [asked] at isDefault
    exact different
      (one key id otherWas existing isOtherWas exists_ company wasDefault (left isDefault).1)
  | some value =>
    have isDefault : dto.isDefault.getD before.isDefault = true := isDefault
    rw [asked] at isDefault
    obtain rfl : value = true := isDefault
    exact different (Option.some.inj (kept asked (company.trans own))).symm

theorem StagesKnown.updateStage (known : StagesKnown db)
    (clears : Clears (dto.isDefault = some true) companyId (some id) db cleared)
    (found : db.leadStage? companyId id = some existing) :
    StagesKnown (cleared.updateStage id dto.write) := by
  constructor
  · intro first second firstStage secondStage isFirst isSecond same firstDefault secondDefault
    rcases find?_updateStage.mp isFirst with ⟨rfl, before, isBefore, rfl⟩ | ⟨apart, oldFirst⟩
    · rcases find?_updateStage.mp isSecond with ⟨rfl, _⟩ | ⟨apart, oldSecond⟩
      · rfl
      · exact (no_other_default known.oneDefault clears found isBefore oldSecond apart same.symm
          firstDefault secondDefault).elim
    · rcases find?_updateStage.mp isSecond with ⟨rfl, before, isBefore, rfl⟩ | ⟨_, oldSecond⟩
      · exact (no_other_default known.oneDefault clears found isBefore oldFirst apart same
          secondDefault firstDefault).elim
      · exact clears.oneDefault known.oneDefault first second _ _ oldFirst oldSecond same firstDefault
          secondDefault
  · have all := known.known
    rw [← clears.inquiries] at all
    refine all.imp fun inquiry holds => holds.mono fun key was found => ?_
    obtain ⟨stage, there, own, _⟩ := clears.stays key was found
    by_cases same : key = id
    · subst same
      exact ⟨_, find?_updateStage.mpr (Or.inl ⟨rfl, stage, there, rfl⟩), own⟩
    · exact ⟨stage, find?_updateStage.mpr (Or.inr ⟨same, there⟩), own⟩

theorem emptied_of_reassigned (known : StagesKnown db)
    (found : db.leadStage? companyId id = some existing)
    (reassigned : Reassigned db companyId id asked actorId moved) {key : Nat} {inquiry : Inquiry}
    (there : moved.inquiries.find? key = some inquiry) (works : inquiry.status.isActive = true) :
    inquiry.stageId ≠ some id := by
  obtain ⟨exists_, own⟩ := leadStage?_eq_some.mp found
  have occupies : ∀ was, db.inquiries.find? key = some was → was.stageId = some id →
      was.status.isActive = true → key ∈ db.occupants companyId id := by
    intro was isWas is active
    obtain ⟨stage, isStage, ofWas⟩ := known.known key was isWas id is
    obtain rfl := Option.some.inj (exists_.symm.trans isStage)
    exact mem_occupants.mpr ⟨was, isWas, ofWas.symm.trans own, is, active⟩
  cases reassigned with
  | nobody none =>
    intro is
    have member := occupies inquiry there is works
    rw [none] at member
    cases member
  | moved some_ given other isTarget =>
    have there : (db.inquiries.modifyAll _ _).find? key = some inquiry := there
    rw [Table.find?_modifyAll, Option.map_eq_some_iff] at there
    obtain ⟨was, isWas, same⟩ := there
    split at same
    · subst same
      exact fun is => other (Option.some.inj is)
    · rename_i apart
      subst same
      exact fun is => apart (decide_eq_true (occupies was isWas is works))

theorem reassigned_active (inUse : db.StagesInUse)
    (reassigned : Reassigned db companyId id asked actorId moved)
    (keeps : db.occupants companyId id ≠ [] → ∀ target stage, asked = some target →
      db.leadStages.find? target = some stage → stage.isActive = true) :
    moved.inquiries.All (StageActive db.leadStages) := by
  cases reassigned with
  | nobody none => exact inUse.occupiedActive
  | moved some_ given other found =>
    refine inUse.occupiedActive.modifyAll fun key inquiry there _ _ works stageId stage is isStage => ?_
    cases is
    exact keeps some_ _ stage given isStage

theorem defaultActive_updateStage (active : moved.leadStages.All LeadStage.DefaultActive)
    (found : moved.leadStages.find? id = some existing)
    (allowed : dto.isDeactivating existing = true → existing.isDefault = false)
    (clears : Clears (dto.isDefault = some true) companyId (some id) moved cleared) :
    (cleared.updateStage id dto.write).leadStages.All LeadStage.DefaultActive ↔
      (dto.isDefault = some true → dto.isActive.getD existing.isActive = true) := by
  constructor
  · intro all makesDefault
    obtain ⟨stage, there, _, same⟩ := clears.stays id existing found
    have rewritten : (cleared.updateStage id dto.write).leadStages.find? id = some (dto.write stage) :=
      find?_updateStage.mpr (Or.inl ⟨rfl, stage, there, rfl⟩)
    rw [← same]
    exact all id _ rewritten (congrArg (Option.getD · stage.isDefault) makesDefault)
  · intro keeps key stage isStage
    rcases find?_updateStage.mp isStage with ⟨rfl, before, isBefore, rfl⟩ | ⟨_, old⟩
    · obtain ⟨was, isWas, _, same, left⟩ := clears.was key before isBefore
      obtain rfl := Option.some.inj (found.symm.trans isWas)
      intro isDefault
      have isDefault : dto.isDefault.getD before.isDefault = true := isDefault
      show dto.isActive.getD before.isActive = true
      rw [same]
      cases asked : dto.isDefault with
      | some value =>
        rw [asked] at isDefault
        obtain rfl : value = true := isDefault
        exact keeps asked
      | none =>
        rw [asked] at isDefault
        have wasDefault := (left isDefault).1
        have wasActive := active key existing found wasDefault
        rw [wasActive]
        cases switched : dto.isActive with
        | none => rfl
        | some value =>
          cases value with
          | true => rfl
          | false =>
            have refused := allowed (by simp [UpdateLeadStageDto.isDeactivating, switched, wasActive])
            rw [wasDefault] at refused
            cases refused
    · obtain ⟨was, isWas, _, same, left⟩ := clears.was key stage old
      intro isDefault
      rw [same]
      exact active key was isWas (left isDefault).1

theorem target_active (reassigned : Reassigned db companyId id asked actorId moved)
    (clears : Clears (dto.isDefault = some true) companyId (some id) moved cleared)
    (all : (cleared.updateStage id dto.write).inquiries.All
      (StageActive (cleared.updateStage id dto.write).leadStages))
    (occupied : db.occupants companyId id ≠ []) {target : Nat} {stage : LeadStage}
    (given : asked = some target) (isStage : db.leadStages.find? target = some stage) :
    stage.isActive = true := by
  cases reassigned with
  | nobody none => exact absurd none occupied
  | moved some_ same apart _ =>
    obtain rfl := Option.some.inj (given.symm.trans same)
    obtain ⟨key, member⟩ := List.exists_mem_of_ne_nil _ occupied
    obtain ⟨inquiry, there, _, _, works⟩ := mem_occupants.mp member
    obtain ⟨later, isLater, _, active⟩ := clears.stays target stage isStage
    have put : (cleared.updateStage id dto.write).inquiries.find? key =
        some { inquiry with stageId := some target } := by
      refine (congrArg (Table.find? · key) clears.inquiries).trans ?_
      refine (Table.find?_modifyAll ..).trans ?_
      rw [there, Option.map_some, if_pos (decide_eq_true member)]
    rw [← active]
    exact all key _ put works target later rfl (find?_updateStage.mpr (Or.inr ⟨apart, isLater⟩))

/-- **A change of a stage keeps stages in use active exactly if it makes no inactive stage the default
one, and moves nobody to an inactive one.** -/
theorem stagesInUse_updateStage (known : StagesKnown db) (inUse : db.StagesInUse)
    (found : db.leadStage? companyId id = some existing)
    (allowed : dto.isDeactivating existing = true → existing.isDefault = false)
    (moves : if dto.isDeactivating existing then
      Reassigned db companyId id dto.reassignToStageId actorId moved else moved = db)
    (clears : Clears (dto.isDefault = some true) companyId (some id) moved cleared) :
    (cleared.updateStage id dto.write).StagesInUse ↔
      KeepsStagesActive db companyId (.updateLeadStage id dto actorId) := by
  obtain ⟨exists_, own⟩ := leadStage?_eq_some.mp found
  have still : moved.leadStages = db.leadStages ∧ StagesKnown moved := by
    split at moves
    · exact known.reassigned moves
    · rw [moves]
      exact ⟨rfl, known⟩
  have existsMoved : moved.leadStages.find? id = some existing := by rw [still.1, exists_]
  have defaults := defaultActive_updateStage (still.1 ▸ inUse.defaultActive) existsMoved allowed clears
  constructor
  · intro after other isOther
    obtain rfl := Option.some.inj (found.symm.trans isOther)
    refine ⟨defaults.mp after.defaultActive, fun deactivates occupied target stage given => ?_⟩
    rw [if_pos deactivates] at moves
    exact target_active moves clears after.occupiedActive occupied given
  · intro keeps
    obtain ⟨keepsDefault, keepsMoved⟩ := keeps existing found
    refine ⟨?_, defaults.mpr keepsDefault, fun key inquiry isInquiry => ?_⟩
    · exact (still.2.updateStage clears (leadStage?_eq_some.mpr ⟨existsMoved, own⟩)).oneDefault
    have inMoved : moved.inquiries.find? key = some inquiry := by
      rw [← clears.inquiries]
      exact isInquiry
    have active : StageActive moved.leadStages inquiry := by
      rw [still.1]
      split at moves
      · exact reassigned_active inUse moves (keepsMoved ‹_›) key inquiry inMoved
      · rw [moves] at inMoved
        exact inUse.occupiedActive key inquiry inMoved
    intro works
    refine active.mono (still.2.known key inquiry inMoved) ?_ works
    intro stageId was stage is isWas isStage wasActive
    rcases find?_updateStage.mp isStage with ⟨rfl, before, isBefore, rfl⟩ | ⟨_, old⟩
    · split at moves
      · exact absurd is (emptied_of_reassigned known found moves inMoved works)
      · rename_i stays
        obtain ⟨same, isSame, _, active, _⟩ := clears.was stageId before isBefore
        obtain rfl := Option.some.inj (isWas.symm.trans isSame)
        obtain rfl := Option.some.inj (existsMoved.symm.trans isWas)
        show dto.isActive.getD before.isActive = true
        rw [active, wasActive]
        cases switched : dto.isActive with
        | none => rfl
        | some value =>
          cases value with
          | true => rfl
          | false => exact absurd (by simp [UpdateLeadStageDto.isDeactivating, switched, wasActive]) stays
    · obtain ⟨same, isSame, _, active, _⟩ := clears.was stageId stage old
      obtain rfl := Option.some.inj (isWas.symm.trans isSame)
      rwa [active]

end Change

/-! ### Operations -/

theorem PresalesDb.StagesInUse.congr (inUse : db.StagesInUse) (same : after.leadStages = db.leadStages)
    (occupied : after.inquiries.All (StageActive db.leadStages)) : after.StagesInUse := by
  constructor
  · rw [same]
    exact inUse.oneDefault
  · rw [same]
    exact inUse.defaultActive
  · rw [same]
    exact occupied

theorem StagesKnown.congr (known : StagesKnown db) (same : after.leadStages = db.leadStages)
    (all : after.inquiries.All (StageKnown db.leadStages)) : StagesKnown after := by
  constructor
  · rw [same]
    exact known.oneDefault
  · rw [same]
    exact all

/-- **Every operation leaves one default stage at most**, and everybody in stages of the company. -/
theorem StagesKnown.effect {op : PresalesOp} (known : StagesKnown db)
    (effect : Effect db companyId op after) : StagesKnown after := by
  cases effect with
  | takenIn takesIn intake => exact known.intake intake
  | created found opens rest => exact known.intake ((found.opened opens _).trans rest)
  | updated found own staged now => exact known.update found own staged
  | attached found of_ from_ to_ bookings now =>
    unfold PresalesDb.convert
    split
    · exact known.congr rfl known.known
    · exact known.congr rfl (known.known.modify fun _ _ holds => holds)
  | @followed _ dto _ _ inquiry found followUp =>
    cases dto.nextActionAt with
    | none => exact known.congr rfl known.known
    | some at_ => exact known.congr rfl (known.known.modify fun _ _ holds => holds)
  | stageCreated dto => exact known.insertStage (clears _ _ _ _)
  | @stageUpdated id _ dto existing moved found allowed moves =>
    have still : moved.leadStages = db.leadStages ∧ StagesKnown moved := by
      split at moves
      · exact known.reassigned moves
      · rw [moves]
        exact ⟨rfl, known⟩
    obtain ⟨exists_, own⟩ := leadStage?_eq_some.mp found
    rw [← still.1] at exists_
    exact still.2.updateStage (clears _ _ _ _) (leadStage?_eq_some.mpr ⟨exists_, own⟩)
  | merged different survivor merged =>
    exact known.congr rfl (known.known.modifyAll fun _ _ _ _ holds => holds)
  | sent live own to_ => exact known.congr rfl known.known

/-- **Stages in use stay active exactly through the operations that keep them so.** -/
theorem stagesInUse_effect {op : PresalesOp} (known : StagesKnown db) (inUse : db.StagesInUse)
    (effect : Effect db companyId op after) :
    after.StagesInUse ↔ KeepsStagesActive db companyId op := by
  cases effect with
  | takenIn takesIn intake =>
    have still := inUse.intake intake nofun
    cases op with
    | createApplicant | createFromLead | importInquiries => exact iff_of_true still trivial
    | _ => exact takesIn.elim
  | @created dto _ middle _ inquiry found opens rest =>
    have intake := (found.opened opens _).trans rest
    refine ⟨fun still stageId stage asked isStage => ?_, fun keeps => inUse.intake intake keeps⟩
    obtain ⟨id, later, there, works, is⟩ := exists_created asked opens rest
    rw [← intake.leadStages] at isStage
    exact still.occupiedActive id later there works stageId stage is isStage
  | updated found own staged now => exact stagesInUse_update inUse found
  | attached found of_ from_ to_ bookings now =>
    refine iff_of_true ?_ trivial
    unfold PresalesDb.convert
    split
    · exact inUse.congr rfl inUse.occupiedActive
    · exact inUse.congr rfl (inUse.occupiedActive.modify fun _ _ _ => nofun)
  | @followed _ dto _ _ inquiry visible followUp =>
    refine iff_of_true ?_ trivial
    cases dto.nextActionAt with
    | none => exact inUse.congr rfl inUse.occupiedActive
    | some at_ =>
      refine inUse.congr rfl (inUse.occupiedActive.modify fun row found active works => ?_)
      obtain rfl := Option.some.inj ((find?_of_scoped visible).1.symm.trans found)
      refine active ?_
      cases status : inquiry.status with
      | open_ => rfl
      | continued => rfl
      | dumped => simp [Inquiry.followUp, status, InquiryStatus.isActive] at works
      | successful => simp [Inquiry.followUp, status, InquiryStatus.isActive] at works
  | stageCreated dto => exact stagesInUse_insertStage known inUse (clears _ _ _ _)
  | stageUpdated found allowed moves =>
    exact stagesInUse_updateStage known inUse found allowed moves (clears _ _ _ _)
  | merged different survivor merged =>
    refine iff_of_true (inUse.congr rfl ?_) trivial
    exact inUse.occupiedActive.modifyAll fun _ _ _ _ active => active
  | sent live own to_ => exact iff_of_true (inUse.congr rfl inUse.occupiedActive) trivial

end Stages

/-! ### Runs -/

section Runs

variable {start : PresalesDb}

theorem PresalesDb.IsNew.stagesInUse (isNew : start.IsNew) : start.StagesInUse := by
  constructor
  · rw [isNew.leadStages]
    exact nofun
  · rw [isNew.leadStages]
    exact .empty
  · rw [isNew.inquiries]
    exact .empty

theorem PresalesDb.IsNew.stagesKnown (isNew : start.IsNew) : StagesKnown start := by
  refine ⟨isNew.stagesInUse.oneDefault, ?_⟩
  rw [isNew.inquiries]
  exact .empty

/-- **Stages in use are active** at every point of a run exactly if every operation keeps them so: no
inactive stage is made the default one, those in a retired stage are not moved to an inactive one,
and no inquiry is opened, put or brought back into an inactive one. -/
theorem stagesInUse_iff (toLowerCase : String → String) (isNew : start.IsNew)
    (requests : List PresalesRequest) :
    (∀ db ∈ states (execPresales toLowerCase) start requests, db.StagesInUse) ↔
      ∀ step ∈ steps (execPresales toLowerCase) start requests,
        KeepsStagesActive step.before step.input.companyId step.input.op := by
  have kept : ∀ request before after, StagesKnown before →
      execPresales toLowerCase request before = .ok after → StagesKnown after :=
    fun request before after known accepted => known.effect (effect_of_exec accepted)
  exact forall_states_iff kept (fun request before after known inUse accepted =>
    stagesInUse_effect known inUse (effect_of_exec accepted)) requests isNew.stagesKnown
      isNew.stagesInUse

end Runs

/-- A stage is retired, and the inquiry in it is moved to a stage that was switched off before. -/
def movedInactive : List PresalesRequest :=
  [{ companyId := 1, op := .createLeadStage { name := "New", isDefault := true } },
    { companyId := 1, op := .createLeadStage { name := "Contacted" } },
    { companyId := 1, op := .createLeadStage { name := "Negotiation", isActive := false } },
    { companyId := 1
      op := .createInquiry
        { applicant := .new { name := "Asha", primaryPhone := "9800000001" }, stageId := some 1 } 2 },
    { companyId := 1
      op := .updateLeadStage 1 { isActive := some false, reassignToStageId := some 2 } 2 }]

theorem stagesInUse_moved :
    (∀ db ∈ states (execPresales id) {} movedInactive, db.StagesInUse) ↔
      ∀ step ∈ steps (execPresales id) {} movedInactive,
        KeepsStagesActive step.before step.input.companyId step.input.op :=
  stagesInUse_iff id PresalesDb.isNew_empty movedInactive

theorem moved_to_inactive :
    ¬∀ requests, ∀ db ∈ states (execPresales id) {} requests, db.StagesInUse := by
  intro inUse
  have last := inUse movedInactive _ (run_mem_states _ _)
  have active := last.occupiedActive 0 _ rfl rfl 2 _ rfl rfl
  cases active

end OpenEstate.Presales
