/-
**Turns in the queue of a pool.**

The active members of a pool queue for its assignments: whoever has had the last one earliest comes
first, and goes to the end of the queue with the next one.

* `InTurn` is what assignments do to the queue, `InTurn.rotates`: they are turns of whoever waits the
  longest;
* `IsFair` says that nobody gets ahead by more than one; `InTurn.isFair`: assignments in turn are
  fair, if the clock goes on.
-/

import OpenEstate.Presales.Assignment
import OpenEstate.Relational.Rotation

namespace OpenEstate.Presales

open Relational
open Function (update update_self update_of_ne)

/-! ### The queue of a pool -/

abbrev Queue := Nat → Option ProjectAssignmentPool

def PresalesDb.queue (db : PresalesDb) (companyId projectId : Nat) : Queue :=
  fun id => (db.pools.find? id).filter (·.isActiveIn companyId projectId)

def Queue.stamps (queue : Queue) (id : Nat) : WithBot Nat :=
  ((queue id).bind (·.lastAssignedAt)).elim ⊥ WithBot.some

def Queue.userId? (queue : Queue) (id : Nat) : Option Nat :=
  (queue id).map (·.userId)

/-- An assignment: the pool it was made from, whose turn it was, and the instant. -/
structure Turn where
  companyId : Nat
  projectId : Nat
  userId : Nat
  now : Nat

def Turn.isOf (companyId projectId : Nat) (turn : Turn) : Bool :=
  turn.companyId == companyId && turn.projectId == projectId

/-- Assignments one after the other, each to a member than whom no other one is earlier. -/
inductive InTurn : Queue → List Turn → Queue → Prop
  | nil {queue : Queue} : InTurn queue [] queue
  | cons {queue last : Queue} {id : Nat} {member : ProjectAssignmentPool} {turn : Turn}
      {rest : List Turn} (waits : queue id = some member)
      (first : ∀ key other, queue key = some other → member.noLater other = true)
      (gets : turn.userId = member.userId)
      (more : InTurn (update queue id (some { member with lastAssignedAt := some turn.now })) rest
        last) :
      InTurn queue (turn :: rest) last

section Queues

variable {queue last : Queue} {turns : List Turn}

theorem InTurn.trans {middle : Queue} {more : List Turn} (first : InTurn queue turns middle)
    (second : InTurn middle more last) : InTurn queue (turns ++ more) last := by
  induction first with
  | nil => exact second
  | cons waits first gets _ ih => exact .cons waits first gets (ih second)

theorem InTurn.snoc {id : Nat} {member : ProjectAssignmentPool} {turn : Turn}
    (inTurn : InTurn queue turns last) (waits : last id = some member)
    (first : ∀ key other, last key = some other → member.noLater other = true)
    (gets : turn.userId = member.userId) :
    InTurn queue (turns ++ [turn])
      (update last id (some { member with lastAssignedAt := some turn.now })) :=
  inTurn.trans (.cons waits first gets .nil)

theorem InTurn.userId?_eq (inTurn : InTurn queue turns last) : last.userId? = queue.userId? := by
  induction inTurn with
  | nil => rfl
  | @cons queue last id member turn rest waits first gets _ ih =>
    rw [ih]
    funext key
    by_cases same : key = id
    · subst same
      rw [Queue.userId?, Queue.userId?, update_self, waits]
      rfl
    · rw [Queue.userId?, Queue.userId?, update_of_ne same]

theorem stamps_le_of_noLater {key id : Nat} {member other : ProjectAssignmentPool}
    (isMember : queue id = some member) (isOther : queue key = some other)
    (noLater : member.noLater other = true) : queue.stamps id ≤ queue.stamps key := by
  rw [Queue.stamps, Queue.stamps, isMember, isOther]
  unfold ProjectAssignmentPool.noLater at noLater
  rw [Option.bind_some, Option.bind_some]
  cases earlier : member.lastAssignedAt with
  | none => exact bot_le
  | some at_ =>
    cases later : other.lastAssignedAt with
    | none =>
      rw [earlier, later] at noLater
      cases noLater
    | some since =>
      rw [earlier, later] at noLater
      refine WithBot.coe_le_coe.mpr ?_
      simp only [Bool.or_eq_true, Bool.and_eq_true, decide_eq_true_eq, beq_iff_eq] at noLater
      omega

/-- **The instants go on**: every assignment is later than those before, and than all that the
members bear at first. -/
structure Rising (queue : Queue) (turns : List Turn) : Prop where
  rises : turns.Pairwise fun earlier later => earlier.now < later.now
  after : ∀ id member at_, queue id = some member → member.lastAssignedAt = some at_ →
    ∀ turn ∈ turns, at_ < turn.now

theorem Rising.stamps_lt (rising : Rising queue turns) (id : Nat) {turn : Turn}
    (isTurn : turn ∈ turns) : queue.stamps id < WithBot.some turn.now := by
  rw [Queue.stamps]
  cases waits : queue id with
  | none => exact WithBot.bot_lt_coe _
  | some member =>
    rw [Option.bind_some]
    cases stamped : member.lastAssignedAt with
    | none => exact WithBot.bot_lt_coe _
    | some at_ => exact WithBot.coe_lt_coe.mpr (rising.after id member at_ waits stamped turn isTurn)

theorem InTurn.rotates {members : List Nat} (inTurn : InTurn queue turns last)
    (rising : Rising queue turns) (isMember : ∀ id, id ∈ members ↔ (queue id).isSome = true) :
    ∃ picks, Rotates members queue.stamps picks last.stamps ∧
      picks.map queue.userId? = turns.map fun turn => some turn.userId := by
  induction inTurn with
  | nil => exact ⟨[], .nil, rfl⟩
  | @cons queue last id member turn rest waits first gets more ih =>
    have stamped : Queue.stamps (update queue id (some { member with
        lastAssignedAt := some turn.now })) = update queue.stamps id (WithBot.some turn.now) := by
      funext key
      by_cases same : key = id
      · subst same
        rw [Queue.stamps, update_self, update_self]
        rfl
      · rw [Queue.stamps, update_of_ne same, update_of_ne same]
        rfl
    have one : InTurn queue [turn] (update queue id (some { member with
        lastAssignedAt := some turn.now })) := .cons waits first gets .nil
    have users := one.userId?_eq
    have same : ∀ key, key ∈ members ↔ (update queue id (some { member with
        lastAssignedAt := some turn.now }) key).isSome = true := by
      intro key
      rw [isMember]
      by_cases same : key = id
      · rw [same, update_self, waits]
        rfl
      · rw [update_of_ne same]
    obtain ⟨soon, rises⟩ := List.pairwise_cons.mp rising.rises
    have goesOn : Rising (update queue id (some { member with
        lastAssignedAt := some turn.now })) rest := by
      refine ⟨rises, fun key other at_ isOther bears later isLater => ?_⟩
      by_cases same : key = id
      · rw [same, update_self] at isOther
        cases isOther
        cases bears
        exact soon later isLater
      · rw [update_of_ne same] at isOther
        exact rising.after key other at_ isOther bears later (List.mem_cons_of_mem _ isLater)
    obtain ⟨picks, rotates, named⟩ := ih goesOn same
    rw [stamped] at rotates
    rw [users] at named
    refine ⟨id :: picks, .cons ?_ ?_ (fun other _ => rising.stamps_lt other ?_) rotates, ?_⟩
    · rw [isMember, waits]
      rfl
    · intro other isOther
      obtain ⟨row, isRow⟩ := Option.isSome_iff_exists.mp ((isMember other).mp isOther)
      exact stamps_le_of_noLater waits isRow (first other row isRow)
    · exact List.mem_cons_self
    · rw [List.map_cons, List.map_cons, named, gets, Queue.userId?, waits]
      rfl

end Queues

section Claims

variable {db : PresalesDb} {companyId projectId : Nat}
variable {member : ProjectAssignmentPool}

theorem queue_eq_some {id : Nat} :
    db.queue companyId projectId id = some member ↔
      db.pools.find? id = some member ∧ member.isActiveIn companyId projectId = true :=
  Option.filter_eq_some_iff

theorem mem_poolMembers_iff_queue {id : Nat} :
    (id, member) ∈ db.poolMembers companyId projectId ↔
      db.queue companyId projectId id = some member :=
  mem_poolMembers.trans queue_eq_some.symm

/-- **A claim** concerns the member that is claimed, if it is one of the pool. -/
theorem queue_claim (db : PresalesDb) (companyId projectId id now : Nat) :
    (db.claim id now).queue companyId projectId =
      update (db.queue companyId projectId) id ((db.queue companyId projectId id).map fun member =>
        { member with lastAssignedAt := some now }) := by
  funext key
  show ((db.pools.modify id _).find? key).filter _ = _
  by_cases same : key = id
  · subst same
    rw [Table.find?_modify_self, update_self, PresalesDb.queue]
    cases db.pools.find? key with
    | none => rfl
    | some member =>
      rw [Option.map_some, Option.filter_some, Option.filter_some]
      show (if member.isActiveIn companyId projectId then _ else _) = _
      split
      · rfl
      · rfl
  · rw [Table.find?_modify_of_ne _ _ same, update_of_ne same]
    rfl

theorem queue_eq_none_of_other {company project id : Nat}
    (waits : db.queue company project id = some member)
    (other : ¬(company = companyId ∧ project = projectId)) :
    db.queue companyId projectId id = none := by
  obtain ⟨found, own⟩ := queue_eq_some.mp waits
  rw [PresalesDb.queue, found, Option.filter_some, if_neg]
  intro both
  simp only [ProjectAssignmentPool.isActiveIn, Bool.and_eq_true, beq_iff_eq] at own both
  exact other ⟨own.1.1.symm.trans both.1.1, own.1.2.symm.trans both.1.2⟩

end Claims

/-! ### Fairness -/

/-- **Fairness**: after each assignment no member has had more than one more than another one, and
so many in a row as there are members name each of them once. -/
structure IsFair (members users : List Nat) : Prop where
  balanced : ∀ earlier, earlier <+: users → ∀ one ∈ members, ∀ other ∈ members,
    earlier.count one ≤ earlier.count other + 1
  rounds : ∀ window, window <:+: users → window.length = members.length → window.Perm members

theorem isFair_of_inRotation {members users : List Nat} (nodup : members.Nodup)
    (inRotation : InRotation members users) : IsFair members users where
  balanced _ isPrefix _ _ _ isOther :=
    (inRotation.of_infix isPrefix.isInfix).count_le_succ nodup isOther
  rounds _ isInfix full := inRotation.perm isInfix full

def PresalesDb.poolUsers (db : PresalesDb) (companyId projectId : Nat) : List Nat :=
  (db.poolMembers companyId projectId).map fun member => member.2.userId

theorem InTurn.isFair {db : PresalesDb} {companyId projectId : Nat} {turns : List Turn}
    {last : Queue}
    (unique : (db.poolUsers companyId projectId).Nodup)
    (inTurn : InTurn (db.queue companyId projectId) turns last)
    (rising : Rising (db.queue companyId projectId) turns) :
    IsFair (db.poolUsers companyId projectId) (turns.map (·.userId)) := by
  let ids := (db.poolMembers companyId projectId).map Prod.fst
  let name := fun id => ((db.queue companyId projectId).userId? id).getD 0
  have isMember : ∀ id, id ∈ ids ↔ (db.queue companyId projectId id).isSome = true := by
    intro id
    rw [List.mem_map, Option.isSome_iff_exists]
    constructor
    · rintro ⟨⟨_, member⟩, listed, rfl⟩
      exact ⟨member, mem_poolMembers_iff_queue.mp listed⟩
    · rintro ⟨member, waits⟩
      exact ⟨(id, member), mem_poolMembers_iff_queue.mpr waits, rfl⟩
  obtain ⟨picks, rotates, named⟩ := inTurn.rotates rising isMember
  have users : ids.map name = db.poolUsers companyId projectId := by
    rw [List.map_map]
    refine List.map_congr_left fun member listed => ?_
    show ((db.queue companyId projectId member.1).map _).getD 0 = _
    rw [mem_poolMembers_iff_queue.mp listed]
    rfl
  have gets : picks.map name = turns.map (·.userId) := by
    have both := congrArg (List.map fun user => Option.getD user 0) named
    rw [List.map_map, List.map_map] at both
    exact both
  have apart : ∀ one ∈ ids, ∀ other ∈ ids, name one = name other → one = other :=
    fun one isOne other isOther same =>
      List.inj_on_of_nodup_map (users ▸ unique) isOne isOther same
  have inRotation : InRotation (ids.map name) (picks.map name) :=
    (rotates.inRotation (Table.select_nodup _ _)).map apart
  rw [users, gets] at inRotation
  exact isFair_of_inRotation unique inRotation

end OpenEstate.Presales
