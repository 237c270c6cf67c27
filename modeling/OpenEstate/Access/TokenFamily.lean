/-
**Token families.**

The tokens of a family belong to one user, and at most one of them is neither consumed nor revoked:
the chain that a login begins is linear. Every write of the token service is an advance: it revokes
some live tokens of one user and may issue one more, in a new family or as the successor of a token
it revokes.

* `Chained` is what the tokens keep, `Extends` how they change, `Dead` a family without a live token;
* `Advance.chained`, `Advance.extends_`: an advance keeps the chains and never brings a dead family
  back to life;
* `Advance.sameOwned`, `Advance.unused`: it leaves other users' tokens alone, and names nobody else
  has drawn.
-/

import OpenEstate.Access.Token

namespace OpenEstate

open Relational

/-! ### Families -/

structure Dead (tokens : Table RefreshToken) (family : Nat) : Prop where
  begun : ∃ id token, tokens.find? id = some token ∧ token.family = family
  revoked : ∀ id token, tokens.find? id = some token → token.family = family →
    token.isRevoked = true

def Linear (tokens : Table RefreshToken) : Prop :=
  ∀ id other token otherToken, tokens.find? id = some token →
    tokens.find? other = some otherToken → token.family = otherToken.family →
    token.isRevoked = false → otherToken.isRevoked = false → id = other

/-- A hash names one token, a family belongs to one user, and has at most one live token. -/
structure Chained (tokens : Table RefreshToken) : Prop where
  hashes : ∀ id other token otherToken, tokens.find? id = some token →
    tokens.find? other = some otherToken → token.tokenHash = otherToken.tokenHash → id = other
  owners : ∀ id other token otherToken, tokens.find? id = some token →
    tokens.find? other = some otherToken → token.family = otherToken.family →
    token.userId = otherToken.userId
  linear : Linear tokens

/-- A token as it may have become: consumed or revoked, and never again once it is. -/
structure RefreshToken.Became (token later : RefreshToken) : Prop where
  userId : later.userId = token.userId
  tokenHash : later.tokenHash = token.tokenHash
  family : later.family = token.family
  revoked : token.isRevoked = true → later = token

/-- Tokens as they may have become: none is lost, and a dead family stays dead. -/
structure Extends (tokens later : Table RefreshToken) : Prop where
  persists : ∀ id token, tokens.find? id = some token →
    ∃ now, later.find? id = some now ∧ token.Became now
  dead : ∀ family, Dead tokens family → Dead later family

def SameOwned (userId : Nat) (tokens later : Table RefreshToken) : Prop :=
  ∀ id token, token.userId = userId →
    (later.find? id = some token ↔ tokens.find? id = some token)

def Unused (tokenHash : String) (family : Nat) (tokens : Table RefreshToken) : Prop :=
  ∀ id token, tokens.find? id = some token → token.tokenHash ≠ tokenHash ∧ token.family ≠ family

theorem RefreshToken.Became.refl (token : RefreshToken) : token.Became token :=
  ⟨rfl, rfl, rfl, fun _ => rfl⟩

theorem RefreshToken.Became.trans {token later last : RefreshToken} (first : token.Became later)
    (second : later.Became last) : token.Became last where
  userId := second.userId.trans first.userId
  tokenHash := second.tokenHash.trans first.tokenHash
  family := second.family.trans first.family
  revoked := by
    intro revoked
    obtain rfl := first.revoked revoked
    exact second.revoked revoked

theorem Extends.refl (tokens : Table RefreshToken) : Extends tokens tokens :=
  ⟨fun _ token found => ⟨token, found, .refl token⟩, fun _ dead => dead⟩

theorem Extends.trans {tokens later last : Table RefreshToken} (first : Extends tokens later)
    (second : Extends later last) : Extends tokens last where
  persists := by
    intro id token found
    obtain ⟨middle, middleFound, became⟩ := first.persists id token found
    obtain ⟨now, nowFound, becameNow⟩ := second.persists id middle middleFound
    exact ⟨now, nowFound, became.trans becameNow⟩
  dead := fun family dead => second.dead family (first.dead family dead)

theorem SameOwned.trans {userId : Nat} {tokens later last : Table RefreshToken}
    (first : SameOwned userId tokens later) (second : SameOwned userId later last) :
    SameOwned userId tokens last :=
  fun id token mine => (second id token mine).trans (first id token mine)

theorem chained_empty : Chained (Table.empty : Table RefreshToken) where
  hashes := fun _ _ _ _ found => nomatch found
  owners := fun _ _ _ _ found => nomatch found
  linear := fun _ _ _ _ found => nomatch found

/-! ### Advances -/

def advanceTokens (tokens : Table RefreshToken) (picks : Nat → RefreshToken → Bool) (now : Nat)
    (issued : Option RefreshToken) : Table RefreshToken :=
  (tokens.modifyAll picks (RefreshToken.revoke now)).createMany issued.toList

theorem find?_advanceTokens {tokens : Table RefreshToken} {picks : Nat → RefreshToken → Bool}
    {now : Nat} {issued : Option RefreshToken} {id : Nat} {token : RefreshToken} :
    (advanceTokens tokens picks now issued).find? id = some token ↔
      (∃ before, tokens.find? id = some before ∧
        (if picks id before then before.revoke now else before) = token) ∨
      (id = tokens.nextId ∧ issued = some token) := by
  unfold advanceTokens
  cases issued with
  | none =>
    rw [Option.toList_none, Table.createMany_nil, Table.find?_modifyAll, Option.map_eq_some_iff]
    simp
  | some row =>
    rw [Option.toList_some, Table.createMany_cons, Table.createMany_nil,
      Table.find?_create_eq_some, Table.find?_modifyAll, Option.map_eq_some_iff,
      Table.nextId_modifyAll]
    simp only [Option.some.injEq]
    exact or_comm

/-- What an advance may pick and issue: live tokens of one user, and a token of the same user under
a hash that is not in use, in a family that is not in use either, or of a token it picks. -/
structure Advance (tokens : Table RefreshToken) (userId : Nat) (picks : Nat → RefreshToken → Bool)
    (issued : Option RefreshToken) : Prop where
  picked : ∀ id token, tokens.find? id = some token → picks id token = true →
    token.userId = userId ∧ token.isRevoked = false
  owned : ∀ token ∈ issued, token.userId = userId
  hash : ∀ token ∈ issued, ∀ id other, tokens.find? id = some other →
    other.tokenHash ≠ token.tokenHash
  family : ∀ token ∈ issued, (∀ id other, tokens.find? id = some other →
      other.family ≠ token.family) ∨
    ∃ id before, tokens.find? id = some before ∧ picks id before = true ∧
      before.family = token.family

namespace Advance

variable {tokens : Table RefreshToken} {userId now : Nat} {picks : Nat → RefreshToken → Bool}
  {issued : Option RefreshToken}

theorem became (advances : Advance tokens userId picks issued) {id : Nat} {token : RefreshToken}
    (found : tokens.find? id = some token) :
    token.Became (if picks id token then token.revoke now else token) := by
  split
  · rename_i picked
    have live := (advances.picked id token found picked).2
    exact ⟨rfl, rfl, rfl, fun revoked => absurd (live.symm.trans revoked) Bool.false_ne_true⟩
  · exact .refl token

theorem live {id : Nat} {token : RefreshToken}
    (found : (advanceTokens tokens picks now issued).find? id = some token)
    (live : token.isRevoked = false) :
    (tokens.find? id = some token ∧ picks id token = false) ∨
      (id = tokens.nextId ∧ issued = some token) := by
  rcases find?_advanceTokens.mp found with ⟨before, present, rfl⟩ | new
  · cases picked : picks id before with
    | true =>
      rw [picked, if_pos rfl] at live
      exact absurd live.symm Bool.false_ne_true
    | false =>
      refine Or.inl ⟨?_, ?_⟩ <;> simp [present, picked]
  · exact Or.inr new

theorem chained (advances : Advance tokens userId picks issued) (chained : Chained tokens) :
    Chained (advanceTokens tokens picks now issued) where
  hashes := by
    intro id other token otherToken found otherFound same
    rcases find?_advanceTokens.mp found with ⟨before, present, rfl⟩ | ⟨rfl, new⟩ <;>
      rcases find?_advanceTokens.mp otherFound with ⟨otherBefore, otherPresent, rfl⟩ | ⟨rfl, otherNew⟩
    · rw [(advances.became present).tokenHash, (advances.became otherPresent).tokenHash] at same
      exact chained.hashes id other _ _ present otherPresent same
    · rw [(advances.became present).tokenHash] at same
      exact absurd same (advances.hash _ otherNew id before present)
    · rw [(advances.became otherPresent).tokenHash] at same
      exact absurd same.symm (advances.hash _ new other otherBefore otherPresent)
    · rfl
  owners := by
    -- a token of before and the one that was issued, in the same family
    have mixed : ∀ {id : Nat} {before token : RefreshToken}, tokens.find? id = some before →
        issued = some token → before.family = token.family → before.userId = token.userId := by
      intro id before token present new same
      rw [advances.owned token new]
      rcases advances.family token new with fresh | ⟨other, row, rowFound, picked, sameFamily⟩
      · exact absurd same (fresh id before present)
      · rw [chained.owners id other before row present rowFound (same.trans sameFamily.symm)]
        exact (advances.picked other row rowFound picked).1
    intro id other token otherToken found otherFound same
    rcases find?_advanceTokens.mp found with ⟨before, present, rfl⟩ | ⟨rfl, new⟩ <;>
      rcases find?_advanceTokens.mp otherFound with ⟨otherBefore, otherPresent, rfl⟩ | ⟨rfl, otherNew⟩
    · rw [(advances.became present).family, (advances.became otherPresent).family] at same
      rw [(advances.became present).userId, (advances.became otherPresent).userId]
      exact chained.owners id other _ _ present otherPresent same
    · rw [(advances.became present).family] at same
      rw [(advances.became present).userId]
      exact mixed present otherNew same
    · rw [(advances.became otherPresent).family] at same
      rw [(advances.became otherPresent).userId]
      exact (mixed otherPresent new same.symm).symm
    · rw [new] at otherNew
      cases otherNew
      rfl
  linear := by
    -- a live token of before that was not picked, and the one that was issued
    have apart : ∀ {id : Nat} {before token : RefreshToken}, tokens.find? id = some before →
        picks id before = false → before.isRevoked = false → issued = some token →
        before.family ≠ token.family := by
      intro id before token present notPicked live new same
      rcases advances.family token new with fresh | ⟨other, row, rowFound, picked, sameFamily⟩
      · exact fresh id before present same
      · obtain rfl := chained.linear id other before row present rowFound
          (same.trans sameFamily.symm) live (advances.picked other row rowFound picked).2
        rw [present] at rowFound
        cases rowFound
        rw [notPicked] at picked
        cases picked
    intro id other token otherToken found otherFound same live otherLive
    rcases Advance.live found live with ⟨present, notPicked⟩ | ⟨rfl, new⟩ <;>
      rcases Advance.live otherFound otherLive with ⟨otherPresent, otherNotPicked⟩ | ⟨rfl, otherNew⟩
    · exact chained.linear id other _ _ present otherPresent same live otherLive
    · exact absurd same (apart present notPicked live otherNew)
    · exact absurd same.symm (apart otherPresent otherNotPicked otherLive new)
    · rfl

theorem extends_ (advances : Advance tokens userId picks issued) :
    Extends tokens (advanceTokens tokens picks now issued) where
  persists := fun id token found =>
    ⟨_, find?_advanceTokens.mpr (Or.inl ⟨token, found, rfl⟩), advances.became found⟩
  dead := by
    rintro family ⟨⟨id, token, found, mine⟩, revoked⟩
    refine ⟨⟨id, _, find?_advanceTokens.mpr (Or.inl ⟨token, found, rfl⟩),
      (advances.became found).family.trans mine⟩, ?_⟩
    intro other otherToken otherFound otherMine
    by_contra live
    have live := Bool.eq_false_of_not_eq_true live
    rcases Advance.live otherFound live with ⟨present, _⟩ | ⟨_, new⟩
    · exact absurd (live.symm.trans (revoked other otherToken present otherMine)) Bool.false_ne_true
    · rcases advances.family otherToken new with fresh | ⟨key, row, rowFound, picked, sameFamily⟩
      · exact fresh id token found (mine.trans otherMine.symm)
      · have rowLive := (advances.picked key row rowFound picked).2
        have rowRevoked := revoked key row rowFound (sameFamily.trans otherMine)
        exact absurd (rowLive.symm.trans rowRevoked) Bool.false_ne_true

theorem sameOwned (advances : Advance tokens userId picks issued) {other : Nat}
    (different : other ≠ userId) : SameOwned other tokens (advanceTokens tokens picks now issued) := by
  intro id token mine
  constructor
  · intro found
    rcases find?_advanceTokens.mp found with ⟨before, present, rfl⟩ | ⟨_, new⟩
    · rw [(advances.became present).userId] at mine
      have notPicked : picks id before = false := by
        by_contra picked
        have picked := Bool.eq_true_of_not_eq_false picked
        exact different (mine.symm.trans (advances.picked id before present picked).1)
      simp [present, notPicked]
    · exact absurd (mine.symm.trans (advances.owned token new)) different
  · intro found
    refine find?_advanceTokens.mpr (Or.inl ⟨token, found, ?_⟩)
    rw [if_neg]
    intro picked
    exact different (mine.symm.trans (advances.picked id token found picked).1)

theorem unused (advances : Advance tokens userId picks issued) {tokenHash : String} {family : Nat}
    (before : Unused tokenHash family tokens)
    (apart : ∀ token ∈ issued, token.tokenHash ≠ tokenHash ∧
      ((∀ id other, tokens.find? id = some other → other.family ≠ token.family) →
        token.family ≠ family)) :
    Unused tokenHash family (advanceTokens tokens picks now issued) := by
  intro id token found
  rcases find?_advanceTokens.mp found with ⟨old, present, rfl⟩ | ⟨_, new⟩
  · rw [(advances.became present).tokenHash, (advances.became present).family]
    exact before id old present
  · obtain ⟨hash, fresh⟩ := apart token new
    refine ⟨hash, ?_⟩
    rcases advances.family token new with unusedFamily | ⟨key, row, rowFound, _, sameFamily⟩
    · exact fresh unusedFamily
    · exact sameFamily ▸ (before key row rowFound).2

end Advance

end OpenEstate
