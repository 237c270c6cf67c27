/-
**Round-robin assignment.**

Inquiries of a project go to the users of its pool in turn: to the active one whose last assignment
lies back the longest, where one who has had none comes first of all. The pick and the claim of a
user are made under the lock of the pool, within the transaction that creates the inquiry.

* `PresalesDb.nextMember` is whose turn it is, `nextMember_eq_some` what is known of the member;
* `autoAssign` picks and claims; `autoAssign_keeps`: it touches nothing but the pools.
-/

import OpenEstate.Presales.Schema

namespace OpenEstate.Presales

open Relational

/-! ### Whose turn it is -/

namespace ProjectAssignmentPool

def isActiveIn (companyId projectId : Nat) (member : ProjectAssignmentPool) : Bool :=
  member.companyId == companyId && member.projectId == projectId && member.isActive

/-- Whether a member is no later in the queue than another one: by the last assignment, no
assignment first, and then by the order that the members are given. -/
def noLater (first second : ProjectAssignmentPool) : Bool :=
  match first.lastAssignedAt, second.lastAssignedAt with
  | none, some _ => true
  | some _, none => false
  | none, none => first.sortOrder ≤ second.sortOrder
  | some earlier, some later =>
    earlier < later || (earlier == later && first.sortOrder ≤ second.sortOrder)

end ProjectAssignmentPool

namespace PresalesDb

def poolMembers (db : PresalesDb) (companyId projectId : Nat) :
    List (Nat × ProjectAssignmentPool) :=
  db.pools.select fun _ member => member.isActiveIn companyId projectId

def nextMember (db : PresalesDb) (draw : PresalesDraw) (companyId projectId : Nat) :
    Option (Nat × ProjectAssignmentPool) :=
  let members := db.poolMembers companyId projectId
  draw.first (members.filter fun member => members.all fun other => member.2.noLater other.2)

def claim (db : PresalesDb) (id now : Nat) : PresalesDb :=
  { db with pools := db.pools.modify id fun member => { member with lastAssignedAt := some now } }

end PresalesDb

theorem mem_poolMembers {db : PresalesDb} {companyId projectId id : Nat}
    {member : ProjectAssignmentPool} :
    (id, member) ∈ db.poolMembers companyId projectId ↔
      db.pools.find? id = some member ∧ member.isActiveIn companyId projectId = true :=
  Table.mem_select

theorem nextMember_eq_some {db : PresalesDb} {draw : PresalesDraw} {companyId projectId : Nat}
    {next : Nat × ProjectAssignmentPool}
    (found : db.nextMember draw companyId projectId = some next) :
    next ∈ db.poolMembers companyId projectId ∧
      ∀ other ∈ db.poolMembers companyId projectId, next.2.noLater other.2 = true := by
  obtain ⟨member, first⟩ := List.mem_filter.mp (PresalesDraw.mem_of_first found)
  exact ⟨member, fun other listed => List.all_eq_true.mp first other listed⟩

/-! ### Picking and claiming -/

section Claim

variable (draw : PresalesDraw) (companyId projectId : Nat)

/-- Claim the member whose turn it is, or else go on. Everybody who locks a member holds the lock of
the pool, so that there is no locked member to skip. -/
def claimOrElse (otherwise : PresalesTx (Option Nat)) : PresalesTx (Option Nat) := do
  let next ← .read fun db => db.nextMember draw companyId projectId
  match next with
  | some (id, member) => do
    .update (.poolMember id) fun db => db.claim id draw.now
    return some member.userId
  | none => otherwise

def claimNext : Nat → PresalesTx (Option Nat)
  | 0 => claimOrElse draw companyId projectId (return none)
  | retries + 1 => claimOrElse draw companyId projectId (claimNext retries)

def autoAssignMaxRetries : Nat := 3

def autoAssign : PresalesTx (Option Nat) := do
  let activeCount ← .read fun db => db.pools.count fun _ member =>
    member.isActiveIn companyId projectId
  if activeCount = 0 then return none
  else do
    .update (.pool projectId) id
    claimNext draw companyId projectId autoAssignMaxRetries

variable {draw companyId projectId}

theorem claimOrElse_keeps {kept : PresalesDb → Prop} {otherwise : PresalesTx (Option Nat)}
    (stays : ∀ db pools, kept db → kept { db with pools })
    (other : otherwise.Keeps kept fun _ => True) :
    (claimOrElse draw companyId projectId otherwise).Keeps kept fun _ => True := by
  refine .read_bind fun db _ => ?_
  cases db.nextMember draw companyId projectId with
  | none => exact other
  | some next => exact .update_bind (fun db holds => stays db _ holds) (.done trivial)

theorem autoAssign_keeps {kept : PresalesDb → Prop}
    (stays : ∀ db pools, kept db → kept { db with pools }) :
    (autoAssign draw companyId projectId).Keeps kept fun _ => True := by
  have claims : ∀ retries, (claimNext draw companyId projectId retries).Keeps kept fun _ => True := by
    intro retries
    induction retries with
    | zero => exact claimOrElse_keeps stays (.done trivial)
    | succ retries ih => exact claimOrElse_keeps stays ih
  refine .read_bind fun db _ => ?_
  split
  · exact .done trivial
  · exact .update_bind (fun db holds => holds) (claims _)

theorem autoAssign_of_run {db after : PresalesDb} {user : Option Nat}
    (ran : (autoAssign draw companyId projectId).run db = .ok (user, after)) :
    ∃ pools, after = { db with pools } := by
  have keeps : (autoAssign draw companyId projectId).Keeps
      (fun later => ∃ pools, later = { db with pools }) fun _ => True := by
    refine autoAssign_keeps ?_
    rintro _ pools ⟨_, rfl⟩
    exact ⟨pools, rfl⟩
  exact (keeps.run ⟨db.pools, rfl⟩ ran).1

end Claim

end OpenEstate.Presales
