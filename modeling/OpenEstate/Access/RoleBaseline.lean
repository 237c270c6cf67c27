/-
**Upgrades and the roles of the system.**

A release brings a seed of permissions for each role of the system. An upgrade records the seed of a
role as its baseline, and adds to the role what is in the seed and was not in the baseline before:
what the role lacks of the baseline an admin has taken away, and what it has beyond the seed an admin
has added.

* `syncSystemRoleBaselines` is the upgrade of the roles, `SyncedRole` what it leaves of one of them:
  `synced_sync`;
* `UpgradeLaws` are its laws over whole histories of releases and edits, `upgradeLaws` proves them.
-/

import OpenEstate.Access.Roles
import OpenEstate.Relational.Run

namespace OpenEstate

open Relational
open Function (update update_self update_of_ne)

/-! ### Releases -/

structure Release where
  rolePermissions : List (String × List String)

/-- The seed of a role, each key once and in order; the super admin's role has none. -/
def Release.seed (release : Release) (slug : String) : Option (List String) :=
  if slug = superAdminSlug then none
  else (release.rolePermissions.lookup slug).map fun keys => keys.dedup.insertionSort (· ≤ ·)

structure UpgradeDb extends AccessDb where
  baselines : Nat → Option (List String) := fun _ => none

structure SyncOutcome where
  added : Nat := 0
  rolesChanged : Nat := 0
  baselined : Nat := 0
  differences : List String := []
  deriving DecidableEq

namespace UpgradeDb

def keyToId (db : UpgradeDb) (key : String) : Option Nat :=
  (db.permissions.findFirst? fun _ permission => permission.key == key).map Prod.fst

def held (db : UpgradeDb) (roleId : Nat) : List String :=
  (db.roles.find? roleId).elim [] db.storedKeys

def setBaseline (db : UpgradeDb) (roleId : Nat) (seed : List String) : UpgradeDb :=
  { db with baselines := update db.baselines roleId (some seed) }

/-- Rows of `role_permissions`, without those that are there; the sessions of the role's users end. -/
def grant (db : UpgradeDb) (roleId : Nat) (toAdd : List String) : UpgradeDb :=
  if toAdd = [] then db
  else { db with
    roles := db.roles.modify roleId fun role => { role with
      permissions := role.permissions ++
        (toAdd.filterMap db.keyToId).filter fun id => decide (id ∉ role.permissions) }
    users := db.users.modifyAll (fun _ user => user.roleId == roleId) User.bump }

/-- The roles of the system for which a release has a seed, by company and slug. -/
def systemRoles (db : UpgradeDb) (release : Release) : List (Nat × Role) :=
  (db.roles.select fun _ role => role.isSystem && (release.seed role.slug).isSome).insertionSort
    fun first second => first.2.companyId < second.2.companyId ∨
      first.2.companyId = second.2.companyId ∧ first.2.slug ≤ second.2.slug

end UpgradeDb

/-! ### The upgrade -/

def syncPermissions (keys : List String) (db : UpgradeDb) : UpgradeDb :=
  keys.foldl
    (fun db key => if (db.keyToId key).isSome then db
      else { db with permissions := db.permissions.create { key } }) db

def differenceLine (role : Role) (missing extra : List String) : List String :=
  if missing = [] ∧ extra = [] then []
  else
    [s!"{role.slug} (company {role.companyId}): " ++ "; ".intercalate
      ((if missing = [] then []
        else [s!"lacks {missing.length} seeded: " ++ ", ".intercalate missing]) ++
      if extra = [] then []
      else [s!"has {extra.length} beyond the seed: " ++ ", ".intercalate extra])]

/-- The first upgrade records the seed; a later one adds what is new in it. -/
def syncRole (seed : List String) (roleId : Nat) (role : Role) (db : UpgradeDb)
    (out : SyncOutcome) : UpgradeDb × SyncOutcome :=
  let held := db.held roleId
  match db.baselines roleId with
  | none =>
    let missing := seed.filter fun key => decide (key ∉ held)
    let extra := (held.filter fun key => decide (key ∉ seed)).insertionSort (· ≤ ·)
    (db.setBaseline roleId seed, { out with
      baselined := out.baselined + 1
      differences := out.differences ++ differenceLine role missing extra })
  | some baseline =>
    let toAdd := seed.filter fun key =>
      decide (key ∉ baseline) && decide (key ∉ held) && (db.keyToId key).isSome
    ((db.grant roleId toAdd).setBaseline roleId seed, { out with
      added := out.added + toAdd.length
      rolesChanged := out.rolesChanged + if toAdd = [] then 0 else 1 })

def syncRoles (release : Release) (roles : List (Nat × Role)) (db : UpgradeDb) (out : SyncOutcome) :
    UpgradeDb × SyncOutcome :=
  roles.foldl
    (fun state role => syncRole ((release.seed role.2.slug).getD []) role.1 role.2 state.1 state.2)
    (db, out)

def syncSystemRoleBaselines (release : Release) (db : UpgradeDb) : UpgradeDb × SyncOutcome :=
  syncRoles release (db.systemRoles release) db {}

/-! ### One role -/

/-- Two states with the same row and baseline of a role, and the same permissions. -/
structure SameAt (roleId : Nat) (first second : UpgradeDb) : Prop where
  role : second.roles.find? roleId = first.roles.find? roleId
  baseline : second.baselines roleId = first.baselines roleId
  permissions : second.permissions = first.permissions

/-- What an upgrade leaves of a role with a seed: the role with more permissions, those that are new
in the seed, and the seed as its baseline. -/
structure SyncedRole (seed : List String) (roleId : Nat) (db after : UpgradeDb) : Prop where
  role : ∀ row, db.roles.find? roleId = some row →
    ∃ permissions, after.roles.find? roleId = some { row with permissions }
  baseline : after.baselines roleId = some seed
  held : ∀ key, key ∈ after.held roleId ↔ key ∈ db.held roleId ∨
    ∃ baseline, db.baselines roleId = some baseline ∧ key ∈ seed ∧ key ∉ baseline ∧
      (db.keyToId key).isSome = true

section Roles

variable {db after first second : UpgradeDb} {seed toAdd : List String} {roleId : Nat} {key : String}

theorem SameAt.refl (roleId : Nat) (db : UpgradeDb) : SameAt roleId db db := ⟨rfl, rfl, rfl⟩

theorem SameAt.trans {third : UpgradeDb} (early : SameAt roleId first second)
    (late : SameAt roleId second third) : SameAt roleId first third :=
  ⟨late.role.trans early.role, late.baseline.trans early.baseline,
    late.permissions.trans early.permissions⟩

theorem SameAt.held (same : SameAt roleId first second) :
    second.held roleId = first.held roleId := by
  unfold UpgradeDb.held AccessDb.storedKeys
  rw [same.role, same.permissions]

theorem SameAt.keyToId (same : SameAt roleId first second) : second.keyToId = first.keyToId := by
  funext key
  rw [UpgradeDb.keyToId, UpgradeDb.keyToId, same.permissions]

theorem SyncedRole.congr {middle later : UpgradeDb} (synced : SyncedRole seed roleId second middle)
    (before : SameAt roleId first second) (since : SameAt roleId middle later) :
    SyncedRole seed roleId first later where
  role row found := by
    rw [since.role]
    exact synced.role row (before.role.trans found)
  baseline := since.baseline.trans synced.baseline
  held key := by
    rw [since.held, synced.held, before.held, before.baseline, before.keyToId]

theorem keyToId_eq_some {id : Nat} (isId : db.keyToId key = some id) :
    ∃ permission, db.permissions.find? id = some permission ∧ permission.key = key := by
  obtain ⟨⟨_, permission⟩, found, rfl⟩ := Option.map_eq_some_iff.mp isId
  obtain ⟨present, named⟩ := Table.findFirst?_eq_some found
  exact ⟨permission, present, beq_iff_eq.mp named⟩

theorem mem_held_iff {row : Role} (found : db.roles.find? roleId = some row) :
    key ∈ db.held roleId ↔ ∃ id ∈ row.permissions, ∃ permission,
      db.permissions.find? id = some permission ∧ permission.key = key := by
  rw [UpgradeDb.held, found]
  exact AccessDb.mem_storedKeys

theorem permissions_grant : (db.grant roleId toAdd).permissions = db.permissions := by
  unfold UpgradeDb.grant
  split <;> rfl

theorem baselines_grant : (db.grant roleId toAdd).baselines = db.baselines := by
  unfold UpgradeDb.grant
  split <;> rfl

theorem role_grant (toAdd : List String) {row : Role} (found : db.roles.find? roleId = some row) :
    ∃ permissions, (db.grant roleId toAdd).roles.find? roleId = some { row with permissions } ∧
      ∀ id, id ∈ permissions ↔ id ∈ row.permissions ∨ id ∈ toAdd.filterMap db.keyToId := by
  unfold UpgradeDb.grant
  split
  · rename_i nothing
    refine ⟨row.permissions, found, fun id => ?_⟩
    rw [nothing]
    simp
  · refine ⟨row.permissions ++
      (toAdd.filterMap db.keyToId).filter fun id => decide (id ∉ row.permissions), ?_, fun id => ?_⟩
    · show (db.roles.modify roleId _).find? roleId = _
      rw [Table.find?_modify_self, found]
      rfl
    · rw [List.mem_append, List.mem_filter, decide_eq_true_eq]
      tauto

/-- **A grant adds what it names**, as far as there are such permissions. -/
theorem mem_held_grant {row : Role} (found : db.roles.find? roleId = some row)
    (known : ∀ key ∈ toAdd, (db.keyToId key).isSome = true) :
    key ∈ (db.grant roleId toAdd).held roleId ↔ key ∈ db.held roleId ∨ key ∈ toAdd := by
  obtain ⟨permissions, granted, members⟩ := role_grant toAdd found
  rw [mem_held_iff granted, mem_held_iff found, permissions_grant]
  constructor
  · rintro ⟨id, member, permission, present, named⟩
    rcases (members id).mp member with old | new
    · exact Or.inl ⟨id, old, permission, present, named⟩
    · obtain ⟨added, isAdded, isId⟩ := List.mem_filterMap.mp new
      obtain ⟨same, presentToo, rfl⟩ := keyToId_eq_some isId
      rw [present] at presentToo
      cases presentToo
      exact Or.inr (named ▸ isAdded)
  · rintro (⟨id, old, present⟩ | new)
    · exact ⟨id, (members id).mpr (Or.inl old), present⟩
    · obtain ⟨id, isId⟩ := Option.isSome_iff_exists.mp (known key new)
      exact ⟨id, (members id).mpr (Or.inr (List.mem_filterMap.mpr ⟨key, new, isId⟩)),
        keyToId_eq_some isId⟩

theorem syncRole_synced {row : Role} (found : db.roles.find? roleId = some row) (role : Role)
    (out : SyncOutcome) : SyncedRole seed roleId db (syncRole seed roleId role db out).1 := by
  unfold syncRole
  cases recorded : db.baselines roleId with
  | none =>
    refine ⟨fun row found => ⟨row.permissions, found⟩, update_self .., fun key => ?_⟩
    rw [recorded]
    exact ⟨Or.inl, fun holds => holds.resolve_right nofun⟩
  | some baseline =>
    let toAdd := seed.filter fun key =>
      decide (key ∉ baseline) && decide (key ∉ db.held roleId) && (db.keyToId key).isSome
    have mem_toAdd : ∀ key, key ∈ toAdd ↔
        key ∈ seed ∧ (key ∉ baseline ∧ key ∉ db.held roleId) ∧ (db.keyToId key).isSome = true := by
      intro key
      simp only [toAdd, List.mem_filter, Bool.and_eq_true, decide_eq_true_eq]
    refine ⟨fun row found => ?_, update_self .., fun key => ?_⟩
    · obtain ⟨permissions, granted, _⟩ := role_grant toAdd found
      exact ⟨permissions, granted⟩
    · have holds : key ∈ (db.grant roleId toAdd).held roleId ↔ key ∈ db.held roleId ∨ key ∈ toAdd :=
        mem_held_grant found fun key member => ((mem_toAdd key).mp member).2.2
      refine holds.trans ?_
      rw [mem_toAdd, recorded]
      constructor
      · rintro (old | ⟨seeded, ⟨new, _⟩, known⟩)
        · exact Or.inl old
        · exact Or.inr ⟨baseline, rfl, seeded, new, known⟩
      · rintro (old | ⟨_, same, seeded, new, known⟩)
        · exact Or.inl old
        · cases same
          by_cases old : key ∈ db.held roleId
          · exact Or.inl old
          · exact Or.inr ⟨seeded, ⟨new, old⟩, known⟩

theorem syncRole_sameAt {id : Nat} (other : id ≠ roleId) (role : Role) (out : SyncOutcome) :
    SameAt id db (syncRole seed roleId role db out).1 := by
  have grants : ∀ toAdd, SameAt id db (db.grant roleId toAdd) := by
    intro toAdd
    refine ⟨?_, by rw [baselines_grant], permissions_grant⟩
    unfold UpgradeDb.grant
    split
    · rfl
    · exact Table.find?_modify_of_ne _ _ other
  have records : ∀ middle : UpgradeDb, SameAt id middle (middle.setBaseline roleId seed) :=
    fun middle => ⟨rfl, update_of_ne other .., rfl⟩
  unfold syncRole
  split
  · exact records db
  · exact (grants _).trans (records _)

end Roles

/-! ### All roles -/

def UpgradeDb.seedOf (db : UpgradeDb) (release : Release) (roleId : Nat) : Option (List String) :=
  (db.roles.find? roleId).bind fun role => if role.isSystem then release.seed role.slug else none

section Sync

variable {release : Release} {db : UpgradeDb} {roleId : Nat}

theorem mem_systemRoles {role : Role} : (roleId, role) ∈ db.systemRoles release ↔
    db.roles.find? roleId = some role ∧ role.isSystem = true ∧
      (release.seed role.slug).isSome = true := by
  rw [UpgradeDb.systemRoles, List.mem_insertionSort, Table.mem_select, Bool.and_eq_true]

theorem systemRoles_nodup : ((db.systemRoles release).map Prod.fst).Nodup := by
  have sorted := List.perm_insertionSort (fun first second : Nat × Role =>
    first.2.companyId < second.2.companyId ∨
      first.2.companyId = second.2.companyId ∧ first.2.slug ≤ second.2.slug)
    (db.roles.select fun _ role => role.isSystem && (release.seed role.slug).isSome)
  exact (sorted.map Prod.fst).nodup_iff.mpr (Table.select_nodup _ _)

/-- **The loop** syncs the roles that are listed, each by its own row, and no others. -/
theorem syncRoles_synced (release : Release) {roles : List (Nat × Role)}
    (nodup : (roles.map Prod.fst).Nodup)
    (listed : ∀ role ∈ roles, db.roles.find? role.1 = some role.2) (out : SyncOutcome) :
    (∀ id ∉ roles.map Prod.fst, SameAt id db (syncRoles release roles db out).1) ∧
      ∀ role ∈ roles, SyncedRole ((release.seed role.2.slug).getD []) role.1 db
        (syncRoles release roles db out).1 := by
  induction roles generalizing db out with
  | nil => exact ⟨fun id _ => .refl id db, nofun⟩
  | cons head rest ih =>
    obtain ⟨isNew, nodup⟩ := List.nodup_cons.mp nodup
    obtain ⟨isHead, listed⟩ := List.forall_mem_cons.mp listed
    let seed := (release.seed head.2.slug).getD []
    let middle := syncRole seed head.1 head.2 db out
    have others : ∀ id, id ≠ head.1 → SameAt id db middle.1 :=
      fun id other => syncRole_sameAt other head.2 out
    have differs : ∀ role ∈ rest, role.1 ≠ head.1 :=
      fun role member same => isNew (same ▸ List.mem_map_of_mem member)
    obtain ⟨untouched, synced⟩ := ih nodup
      (fun role member => (others _ (differs role member)).role.trans (listed role member)) middle.2
    refine ⟨fun id absent => ?_, fun role member => ?_⟩
    · rw [List.map_cons, List.mem_cons, not_or] at absent
      exact (others id absent.1).trans (untouched id absent.2)
    · rcases List.mem_cons.mp member with rfl | later
      · exact (syncRole_synced isHead role.2 out).congr (.refl _ _) (untouched _ isNew)
      · exact (synced role later).congr (others _ (differs role later)) (.refl _ _)

theorem synced_sync {seed : List String} (isSeed : db.seedOf release roleId = some seed) :
    SyncedRole seed roleId db (syncSystemRoleBaselines release db).1 := by
  obtain ⟨role, found, isSeed⟩ := Option.bind_eq_some_iff.mp isSeed
  split at isSeed
  · rename_i system
    have listed : (roleId, role) ∈ db.systemRoles release :=
      mem_systemRoles.mpr ⟨found, system, by rw [isSeed]; rfl⟩
    have synced := (syncRoles_synced release systemRoles_nodup
      (fun _ member => (mem_systemRoles.mp member).1) {}).2 _ listed
    rw [isSeed] at synced
    exact synced
  · cases isSeed

theorem sameAt_sync (noSeed : db.seedOf release roleId = none) :
    SameAt roleId db (syncSystemRoleBaselines release db).1 := by
  refine (syncRoles_synced release systemRoles_nodup
    (fun _ member => (mem_systemRoles.mp member).1) {}).1 roleId fun member => ?_
  obtain ⟨⟨_, role⟩, listed, rfl⟩ := List.mem_map.mp member
  obtain ⟨found, system, seeded⟩ := mem_systemRoles.mp listed
  rw [UpgradeDb.seedOf, found, Option.bind_some, if_pos system] at noSeed
  rw [noSeed] at seeded
  cases seeded

theorem baselines_sync : (syncSystemRoleBaselines release db).1.baselines roleId =
    (db.seedOf release roleId).or (db.baselines roleId) := by
  cases isSeed : db.seedOf release roleId with
  | none => exact (sameAt_sync isSeed).baseline
  | some seed => exact (synced_sync isSeed).baseline

theorem seedOf_sync : (syncSystemRoleBaselines release db).1.seedOf release roleId =
    db.seedOf release roleId := by
  cases isSeed : db.seedOf release roleId with
  | none =>
    have same := (sameAt_sync isSeed).role
    rw [UpgradeDb.seedOf, same]
    exact isSeed
  | some seed =>
    obtain ⟨role, found, seeded⟩ := Option.bind_eq_some_iff.mp isSeed
    obtain ⟨permissions, after⟩ := (synced_sync isSeed).role role found
    rw [UpgradeDb.seedOf, after]
    exact seeded

theorem syncRoles_of_settled {roles : List (Nat × Role)} (out : SyncOutcome)
    (settled : ∀ role ∈ roles,
      db.baselines role.1 = some ((release.seed role.2.slug).getD [])) :
    syncRoles release roles db out = (db, out) := by
  induction roles with
  | nil => rfl
  | cons head rest ih =>
    obtain ⟨isHead, settled⟩ := List.forall_mem_cons.mp settled
    let seed := (release.seed head.2.slug).getD []
    have nothing : (seed.filter fun key => decide (key ∉ seed) && decide (key ∉ db.held head.1) &&
        (db.keyToId key).isSome) = [] := by
      refine List.filter_eq_nil_iff.mpr fun key member => ?_
      simp [member]
    have same : db.setBaseline head.1 seed = db := by
      unfold UpgradeDb.setBaseline
      rw [← isHead, Function.update_eq_self]
    have idle : syncRole seed head.1 head.2 db out = (db, out) := by
      unfold syncRole
      rw [isHead]
      simp only
      rw [nothing, UpgradeDb.grant, if_pos rfl, same]
      simp
    show syncRoles release rest (syncRole seed head.1 head.2 db out).1
      (syncRole seed head.1 head.2 db out).2 = _
    rw [idle]
    exact ih settled

/-- **A second upgrade adds nothing.** -/
theorem sync_sync : syncSystemRoleBaselines release (syncSystemRoleBaselines release db).1 =
    ((syncSystemRoleBaselines release db).1, {}) := by
  refine syncRoles_of_settled {} fun role listed => ?_
  obtain ⟨found, system, seeded⟩ := mem_systemRoles.mp listed
  obtain ⟨seed, isSeed⟩ := Option.isSome_iff_exists.mp seeded
  have isSeedNow : (syncSystemRoleBaselines release db).1.seedOf release role.1 = some seed := by
    rw [UpgradeDb.seedOf, found, Option.bind_some, if_pos system, isSeed]
  rw [isSeed, baselines_sync, ← seedOf_sync, isSeedNow]
  rfl

end Sync

/-! ### Histories -/

inductive UpgradeOp
  | syncPermissions (keys : List String)
  | syncRoles (release : Release)
  | createRole (companyId : Nat) (data : CreateRoleDto) (callerId : Nat)
  | updateRole (companyId roleId : Nat) (data : UpdateRoleDto) (callerId : Nat)
  | removeRole (companyId roleId callerId : Nat)

def UpgradeDb.edit (db : UpgradeDb) (tx : AccessTx Unit) : Except ServiceError UpgradeDb := do
  let (_, after) ← tx.run db.toAccessDb
  return { db with toAccessDb := after }

def execUpgrade (op : UpgradeOp) (db : UpgradeDb) : Except ServiceError UpgradeDb :=
  match op with
  | .syncPermissions keys => .ok (syncPermissions keys db)
  | .syncRoles release => .ok (syncSystemRoleBaselines release db).1
  | .createRole companyId data callerId => db.edit (RolesService.create companyId data callerId)
  | .updateRole companyId roleId data callerId =>
    db.edit (RolesService.update companyId roleId data callerId)
  | .removeRole companyId roleId callerId =>
    db.edit (RolesService.remove companyId roleId callerId)

theorem edit_baselines {db after : UpgradeDb} {tx : AccessTx Unit}
    (accepted : db.edit tx = .ok after) : after.baselines = db.baselines := by
  obtain ⟨_, _, accepted⟩ := bind_eq_ok.mp accepted
  cases accepted
  rfl

theorem baselines_syncPermissions (keys : List String) (db : UpgradeDb) :
    (syncPermissions keys db).baselines = db.baselines := by
  unfold syncPermissions
  induction keys generalizing db with
  | nil => rfl
  | cons key rest ih =>
    rw [List.foldl_cons, ih]
    split <;> rfl

def UpgradeOp.seedFor (step : Step UpgradeDb UpgradeOp) (roleId : Nat) : Option (List String) :=
  match step.input with
  | .syncRoles release => step.before.seedOf release roleId
  | _ => none

def UpgradeOp.Adds (roleId : Nat) (key : String) (step : Step UpgradeDb UpgradeOp) : Prop :=
  (∃ release, step.input = .syncRoles release) ∧ key ∉ step.before.held roleId ∧
    key ∈ step.after.held roleId

theorem baselines_step {db after : UpgradeDb} {op : UpgradeOp}
    (accepted : execUpgrade op db = .ok after) (roleId : Nat) :
    after.baselines roleId =
      (UpgradeOp.seedFor ⟨db, op, after⟩ roleId).or (db.baselines roleId) := by
  cases op with
  | syncPermissions keys =>
    cases accepted
    exact congrFun (baselines_syncPermissions keys db) roleId
  | syncRoles release =>
    cases accepted
    exact baselines_sync
  | createRole companyId data callerId => exact congrFun (edit_baselines accepted) roleId
  | updateRole companyId id data callerId => exact congrFun (edit_baselines accepted) roleId
  | removeRole companyId id callerId => exact congrFun (edit_baselines accepted) roleId

theorem baselines_run (start : UpgradeDb) (ops : List UpgradeOp) (roleId : Nat) :
    (run execUpgrade start ops).baselines roleId =
      (((steps execUpgrade start ops).filterMap (UpgradeOp.seedFor · roleId)).getLast?).or
        (start.baselines roleId) := by
  let relates : UpgradeDb → List (List String) → UpgradeDb → Prop := fun before seeds after =>
    after.baselines roleId = seeds.getLast?.or (before.baselines roleId)
  let emitted : Step UpgradeDb UpgradeOp → List (List String) := fun step =>
    (UpgradeOp.seedFor step roleId).toList
  have related : relates start ((steps execUpgrade start ops).flatMap emitted)
      (run execUpgrade start ops) := by
    refine relates_steps (fun _ => rfl) ?_ (fun _ _ _ (_ : True) _ => trivial) ?_ ops trivial
    · intro first second third early late before after
      show third.baselines roleId = (early ++ late).getLast?.or (first.baselines roleId)
      rw [after, before, List.getLast?_append, Option.or_assoc]
    · intro op before after _ accepted
      show after.baselines roleId = (UpgradeOp.seedFor ⟨before, op, after⟩ roleId).toList.getLast?.or
        (before.baselines roleId)
      rw [baselines_step accepted roleId]
      cases UpgradeOp.seedFor ⟨before, op, after⟩ roleId with
      | none => rfl
      | some seed => rfl
  rw [List.filterMap_eq_flatMap_toList]
  exact related

/-! ### The laws -/

/-- **The laws of upgrades**, whatever is upgraded and edited from some state on. -/
structure UpgradeLaws (start : UpgradeDb) : Prop where
  /-- No permission is taken from a role. -/
  keeps : ∀ release roleId key, key ∈ start.held roleId →
    key ∈ (syncSystemRoleBaselines release start).1.held roleId
  /-- What is in the baseline of a role and stays in its seed, no upgrade adds any more: without it
  the role is since somebody took it away. -/
  spares : ∀ roleId baseline key, start.baselines roleId = some baseline → key ∈ baseline →
    ∀ ops, (∀ step ∈ steps execUpgrade start ops, ∀ seed,
      UpgradeOp.seedFor step roleId = some seed → key ∈ seed) →
    ∀ step ∈ steps execUpgrade start ops, ¬UpgradeOp.Adds roleId key step
  /-- What has come into the seed of a role since its last upgrade, the next one gives to it, if
  there is such a permission. -/
  delivers : ∀ ops release roleId last seed key,
    ((steps execUpgrade start ops).filterMap (UpgradeOp.seedFor · roleId)).getLast? = some last →
    (run execUpgrade start ops).seedOf release roleId = some seed → key ∈ seed → key ∉ last →
    ((run execUpgrade start ops).keyToId key).isSome = true →
    key ∈ (syncSystemRoleBaselines release (run execUpgrade start ops)).1.held roleId
  /-- A second upgrade adds nothing. -/
  settles : ∀ release, syncSystemRoleBaselines release (syncSystemRoleBaselines release start).1 =
    ((syncSystemRoleBaselines release start).1, {})

theorem not_adds_of_baseline {db after : UpgradeDb} {op : UpgradeOp} {roleId : Nat}
    {baseline : List String} {key : String} (accepted : execUpgrade op db = .ok after)
    (recorded : db.baselines roleId = some baseline) (member : key ∈ baseline) :
    ¬UpgradeOp.Adds roleId key ⟨db, op, after⟩ := by
  rintro ⟨⟨release, same⟩, lacks, has⟩
  cases same
  cases accepted
  have has : key ∈ (syncSystemRoleBaselines release db).1.held roleId := has
  cases isSeed : db.seedOf release roleId with
  | none =>
    rw [(sameAt_sync isSeed).held] at has
    exact lacks has
  | some seed =>
    rcases ((synced_sync isSeed).held key).mp has with old | ⟨other, isOther, _, new, _⟩
    · exact lacks old
    · rw [recorded] at isOther
      cases isOther
      exact new member

/-- **Role upgrades respect the admin.** -/
theorem upgradeLaws (start : UpgradeDb) : UpgradeLaws start where
  keeps release roleId key has := by
    cases isSeed : start.seedOf release roleId with
    | none => exact (sameAt_sync isSeed).held ▸ has
    | some seed => exact ((synced_sync isSeed).held key).mpr (Or.inl has)
  spares roleId baseline key recorded member ops seeded := by
    -- the baseline goes on to have the key
    have kept : ∀ visited ∈ states execUpgrade start ops,
        ∃ baseline, visited.baselines roleId = some baseline ∧ key ∈ baseline := by
      refine states_invariant _ ?_ seeded ⟨baseline, recorded, member⟩
      rintro op before after ⟨earlier, recorded, member⟩ accepted seeded
      rw [baselines_step accepted roleId]
      cases isSeed : UpgradeOp.seedFor ⟨before, op, after⟩ roleId with
      | none => exact ⟨earlier, recorded, member⟩
      | some seed => exact ⟨seed, rfl, seeded seed isSeed⟩
    intro step isStep
    obtain ⟨earlier, recorded, member⟩ := kept _ (before_mem_states isStep)
    exact not_adds_of_baseline (mem_steps isStep).2 recorded member
  delivers ops release roleId last seed key isLast isSeed seeded new known := by
    refine ((synced_sync isSeed).held key).mpr (Or.inr ⟨last, ?_, seeded, new, known⟩)
    rw [baselines_run, isLast]
    rfl
  settles release := sync_sync

end OpenEstate
