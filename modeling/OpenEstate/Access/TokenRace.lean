/-
**Refresh tokens while others go on.**

Logins, refreshes, logouts and the ends of sessions run as transactions of their own, in any order
of their statements. The advisory lock of a user protects the user's tokens, and what one call draws
at random no other does; that is all that is needed for the families to stay linear and for a
revocation to be final.

* `tokenChains` is that discipline;
* `guarded_refresh`, `guarded_revokeFamily`, `guarded_revokeAllForUser`, `guarded_endSessions`: how
  each call ends, from the rows it begins with.
-/

import OpenEstate.Access.TokenFamily
import OpenEstate.Relational.Guarded

namespace OpenEstate

open Relational

/-! ### The discipline -/

section Discipline

variable {ι : Type} (config : TokenConfig) (draws : ι → TokenDraw)

/-- No two calls draw the same raw token or the same family, and no two raw tokens have the same
hash. -/
def Distinct : Prop :=
  ∀ session other, session ≠ other →
    config.hashToken (draws session).raw ≠ config.hashToken (draws other).raw ∧
      (draws session).family ≠ (draws other).family

def Drawn (session : ι) (db : AccessDb) : Prop :=
  Unused (config.hashToken (draws session).raw) (draws session).family db.refreshTokens

/-- The lock of a user protects the user's tokens; what a call has drawn is left to it. -/
def tokenChains : Discipline ι AccessDb AccessLock where
  kept := fun db => Chained db.refreshTokens
  grows := fun db after => Extends db.refreshTokens after.refreshTokens
  same := fun lock db after => ∀ userId, lock = .userTokens userId →
    SameOwned userId db.refreshTokens after.refreshTokens
  steady := fun session db after => Drawn config draws session db → Drawn config draws session after
  grows_refl := fun db => .refl db.refreshTokens
  grows_trans := fun first second => first.trans second
  same_refl := fun _ _ _ _ _ _ _ => Iff.rfl
  same_trans := fun first second userId is => (first userId is).trans (second userId is)
  steady_refl := fun _ _ drawn => drawn
  steady_trans := fun first second drawn => second (first drawn)

end Discipline

section Guarded

variable {ι : Type} {config : TokenConfig} {draws : ι → TokenDraw} {session : ι}
  {seen : AccessDb → Prop} {held : List AccessLock} {rows : AccessDb} {α : Type}
variable {userId : Nat}

theorem sameOwned_of_relies {later : AccessDb}
    (relies : (tokenChains config draws).Relies session held rows later)
    (locked : .userTokens userId ∈ held) :
    SameOwned userId rows.refreshTokens later.refreshTokens :=
  relies.same _ locked userId rfl

variable {picks : Nat → RefreshToken → Bool}

/-- **What a call commits under the lock of a user**: an advance of the user's tokens, under the
names it has drawn. -/
theorem promises_advance {now : Nat} {issued : Option RefreshToken} {before after : AccessDb}
    (distinct : Distinct config draws) (locked : .userTokens userId ∈ held)
    (kept : Chained before.refreshTokens)
    (is : after.refreshTokens = advanceTokens before.refreshTokens picks now issued)
    (advances : Advance before.refreshTokens userId picks issued)
    (names : ∀ token ∈ issued, token.tokenHash = config.hashToken (draws session).raw ∧
      ((∀ id other, before.refreshTokens.find? id = some other → other.family ≠ token.family) →
        token.family = (draws session).family)) :
    (tokenChains config draws).Promises session held before after where
  kept := by
    show Chained after.refreshTokens
    exact is ▸ advances.chained kept
  grows := by
    show Extends before.refreshTokens after.refreshTokens
    exact is ▸ advances.extends_
  steady := by
    intro other different drawn
    show Unused _ _ after.refreshTokens
    rw [is]
    refine advances.unused drawn fun token new => ?_
    obtain ⟨hash, family⟩ := names token new
    obtain ⟨hashes, families⟩ := distinct session other different.symm
    exact ⟨hash ▸ hashes, fun fresh => family fresh ▸ families⟩
  same := by
    intro lock free other is_
    rw [is]
    refine advances.sameOwned ?_
    rintro rfl
    exact free (is_ ▸ locked)

/-! ### Revoking -/

def revokePicked (picks : Nat → RefreshToken → Bool) (now : Nat) (db : AccessDb) : AccessDb :=
  { db with refreshTokens := db.refreshTokens.modifyAll picks (RefreshToken.revoke now) }

/-- Among the tokens that are asked for, the live ones of a user are picked, and none that is not
live. -/
structure PicksLive (asked : RefreshToken → Bool) (userId : Nat) (picks : Nat → RefreshToken → Bool)
    (db : AccessDb) : Prop where
  only : ∀ id token, picks id token = true → asked token = true ∧ token.isRevoked = false
  every : ∀ id token, db.refreshTokens.find? id = some token → token.userId = userId →
    asked token = true → token.isRevoked = false → picks id token = true

variable {asked : RefreshToken → Bool}

/-- **Revoking under the lock of a user**: all the user's tokens that are asked for are picked, as
they are when the call commits. -/
theorem wp_revokeWhere {written : AccessDb → AccessDb}
    (alone : ∀ db, (written db).refreshTokens = db.refreshTokens)
    (locked : .userTokens userId ∈ held)
    {post : List AccessLock → Unit → (AccessDb → AccessDb) → AccessDb → Prop}
    (goes : ∀ taken now picks, (tokenChains config draws).Relies session held rows now →
      .userTokens userId ∈ taken →
      (∀ later, (tokenChains config draws).Relies session taken now later →
        PicksLive asked userId picks later) →
      post taken () (revokePicked picks (draws session).stampedAt ∘ written) now) :
    (tokenChains config draws).wp session seen post held
      (TokenService.revokeWhere (draws session) asked) written rows := by
  intro first reliesFirst _ second reliesSecond _
  have lockedThen : AccessLock.userTokens userId ∈
      ((written first).refreshTokens.select fun _ token => asked token && !token.isRevoked).map
        (AccessLock.refreshToken ∘ Prod.fst) ++ ([] ++ held) :=
    List.mem_append_right _ locked
  rw [← List.map_map] at lockedThen
  refine goes _ second _ (reliesFirst.trans reliesSecond) lockedThen fun later relies => ⟨?_, ?_⟩
  · intro id token picked
    have asks := (Bool.and_eq_true_iff.mp picked).2
    rw [Bool.and_eq_true, Bool.not_eq_true'] at asks
    exact asks
  · intro id token found mine asks live
    -- the token was there, as it is, when the rows to revoke were looked for
    have sinceFirst := (sameOwned_of_relies reliesSecond locked).trans
      (sameOwned_of_relies relies lockedThen)
    have present := (sinceFirst id token mine).mp found
    have met : (asked token && !token.isRevoked) = true := by simp [asks, live]
    refine Bool.and_eq_true_iff.mpr ⟨decide_eq_true ?_, met⟩
    refine List.mem_map.mpr ⟨(id, token), Table.mem_select.mpr ⟨?_, met⟩, rfl⟩
    rw [alone]
    exact present

variable {db : AccessDb}

theorem advance_revokePicked {now : Nat} (live : PicksLive asked userId picks db)
    (owned : ∀ id token, db.refreshTokens.find? id = some token → asked token = true →
      token.userId = userId) :
    (revokePicked picks now db).refreshTokens = advanceTokens db.refreshTokens picks now none ∧
      Advance db.refreshTokens userId picks none := by
  refine ⟨rfl, fun id token found picked => ?_, nofun, nofun, nofun⟩
  obtain ⟨asks, isLive⟩ := live.only id token picked
  exact ⟨owned id token found asks, isLive⟩

theorem dead_revokePicked {now family : Nat} (live : PicksLive asked userId picks db)
    (begun : ∃ id token, db.refreshTokens.find? id = some token ∧ token.family = family)
    (all : ∀ id token, db.refreshTokens.find? id = some token → token.family = family →
      token.userId = userId ∧ asked token = true) :
    Dead (revokePicked picks now db).refreshTokens family := by
  have reads : ∀ id, (revokePicked picks now db).refreshTokens.find? id =
      (db.refreshTokens.find? id).map fun token =>
        if picks id token then token.revoke now else token :=
    fun id => Table.find?_modifyAll _ _ _ id
  constructor
  · obtain ⟨id, token, found, mine⟩ := begun
    refine ⟨id, _, (reads id).trans (congrArg _ found), ?_⟩
    show (if picks id token then token.revoke now else token).family = family
    split <;> exact mine
  · intro id token found mine
    rw [reads, Option.map_eq_some_iff] at found
    obtain ⟨before, present, rfl⟩ := found
    split at mine
    · rename_i picked
      rw [if_pos picked]
      rfl
    · rename_i notPicked
      rw [if_neg notPicked]
      obtain ⟨owned, asks⟩ := all id before present mine
      by_contra isLive
      exact notPicked (live.every id before present owned asks (Bool.eq_false_of_not_eq_true isLive))

/-! ### Presented tokens -/

variable {token : RefreshToken}

theorem presented {now : AccessDb} (grows : Extends db.refreshTokens now.refreshTokens)
    (kept : Chained now.refreshTokens) {id other : Nat} {found : RefreshToken}
    (present : db.refreshTokens.find? id = some token)
    (later : now.refreshTokens.find? other = some found)
    (same : found.tokenHash = token.tokenHash) :
    id = other ∧ token.Became found := by
  obtain ⟨became, nowPresent, is⟩ := grows.persists id token present
  obtain rfl := kept.hashes id other became found nowPresent later
    (is.tokenHash.trans same.symm)
  rw [nowPresent] at later
  cases later
  exact ⟨rfl, is⟩

theorem findToken_eq_some {hash : String} {row : Nat × RefreshToken}
    (found : db.findToken hash = some row) :
    db.refreshTokens.find? row.1 = some row.2 ∧ row.2.tokenHash = hash := by
  obtain ⟨present, same⟩ := Table.findFirst?_eq_some found
  exact ⟨present, eq_of_beq same⟩

theorem findToken_ne_none {id : Nat}
    (present : db.refreshTokens.find? id = some token) : db.findToken token.tokenHash ≠ none := by
  intro missed
  have differs := Table.findFirst?_eq_none.mp missed id token present
  simp at differs

theorem findToken_of_extends {now : AccessDb} (grows : Extends db.refreshTokens now.refreshTokens)
    (kept : Chained now.refreshTokens) {id : Nat}
    (present : db.refreshTokens.find? id = some token) :
    ∃ became, now.findToken token.tokenHash = some (id, became) ∧ token.Became became := by
  obtain ⟨became, nowPresent, is⟩ := grows.persists id token present
  cases found : now.findToken token.tokenHash with
  | none => exact absurd found (is.tokenHash ▸ findToken_ne_none nowPresent)
  | some row =>
    obtain ⟨rowPresent, same⟩ := findToken_eq_some found
    obtain ⟨rfl, became⟩ := presented grows kept present rowPresent same
    exact ⟨row.2, rfl, became⟩

/-! ### Ending families -/

variable {ends : Unit → AccessDb → AccessDb → Prop}

theorem guarded_revokeFamilyById {key : Nat} (distinct : Distinct config draws)
    (locked : .userTokens token.userId ∈ held) (present : rows.refreshTokens.find? key = some token)
    (right : ∀ before after, Dead after.refreshTokens token.family → ends () before after) :
    (tokenChains config draws).Guarded session seen ends held
      (TokenService.revokeFamilyById (draws session) token.family) id rows := by
  refine wp_revokeWhere (fun _ => rfl) locked ?_
  intro taken now picks reliesNow lockedNow live later reliesLater
  have grows : Extends rows.refreshTokens later.refreshTokens :=
    reliesNow.grows.trans reliesLater.grows
  obtain ⟨became, laterPresent, is⟩ := grows.persists key token present
  have owned : ∀ id other, later.refreshTokens.find? id = some other →
      (other.family == token.family) = true → other.userId = token.userId := by
    intro id other found same
    rw [← is.userId]
    exact reliesLater.kept.owners id key other became found laterPresent
      ((eq_of_beq same).trans is.family.symm)
  obtain ⟨isAdvance, advances⟩ := advance_revokePicked (live later reliesLater) owned
  refine ⟨promises_advance distinct lockedNow reliesLater.kept isAdvance advances nofun,
    right later _ ?_⟩
  exact dead_revokePicked (live later reliesLater) ⟨key, became, laterPresent, is.family⟩
    fun id other found same => ⟨owned id other found (beq_iff_eq.mpr same), beq_iff_eq.mpr same⟩

theorem guarded_revokeFamily {rawToken : String} (distinct : Distinct config draws)
    (right : ∀ before after, (∀ id token, rows.refreshTokens.find? id = some token →
      token.tokenHash = config.hashToken rawToken → Dead after.refreshTokens token.family) →
      ends () before after) :
    (tokenChains config draws).Guarded session seen ends []
      (TokenService.revokeFamily config (draws session) rawToken) id rows := by
  unfold TokenService.revokeFamily
  refine Discipline.wp_read_bind fun first reliesFirst _ => ?_
  cases owner : first.ownerOf (config.hashToken rawToken) with
  | none =>
    simp only [id_eq, owner]
    refine Discipline.commits_id fun later _ => right later later fun id token present same => ?_
    obtain ⟨became, found, _⟩ := findToken_of_extends reliesFirst.grows reliesFirst.kept present
    rw [AccessDb.ownerOf, ← same, found] at owner
    cases owner
  | some userId =>
    obtain ⟨row, rowFound, rfl⟩ := Option.map_eq_some_iff.mp owner
    obtain ⟨rowPresent, rowHash⟩ := findToken_eq_some rowFound
    simp only [id_eq, owner]
    intro second reliesSecond _
    refine Discipline.wp_read_bind fun third reliesThird _ => ?_
    have sinceFirst : Extends first.refreshTokens third.refreshTokens :=
      reliesSecond.grows.trans reliesThird.grows
    obtain ⟨now, nowFound, is⟩ := findToken_of_extends sinceFirst reliesThird.kept rowPresent
    rw [rowHash] at nowFound
    simp only [Function.comp_apply, id_eq, nowFound]
    obtain ⟨nowPresent, _⟩ := findToken_eq_some nowFound
    refine guarded_revokeFamilyById distinct ?_ nowPresent ?_
    · rw [is.userId]
      exact List.mem_cons_self
    · intro before after dead
      refine right before after fun id token present same => ?_
      have grows := reliesFirst.grows.trans sinceFirst
      obtain ⟨_, became⟩ := presented grows reliesThird.kept present nowPresent
        (is.tokenHash.trans (rowHash.trans same.symm))
      exact became.family ▸ dead

/-- **Ending all sessions of a user ends the families of all the tokens that were there.** -/
theorem guarded_revokeAllForUser (distinct : Distinct config draws)
    (right : ∀ before after, (∀ id token, rows.refreshTokens.find? id = some token →
      token.userId = userId → Dead after.refreshTokens token.family) → ends () before after) :
    (tokenChains config draws).Guarded session seen ends held
      (TokenService.revokeAllForUser (draws session) userId) id rows := by
  intro first reliesFirst _
  refine wp_revokeWhere (fun _ => rfl) List.mem_cons_self ?_
  intro taken now picks reliesNow lockedNow live later reliesLater
  obtain ⟨isAdvance, advances⟩ := advance_revokePicked (live later reliesLater)
    fun id token _ asks => eq_of_beq asks
  refine ⟨promises_advance distinct lockedNow reliesLater.kept isAdvance advances nofun,
    right later _ fun id token present mine => ?_⟩
  have grows : Extends rows.refreshTokens later.refreshTokens :=
    (reliesFirst.grows.trans reliesNow.grows).trans reliesLater.grows
  obtain ⟨became, laterPresent, is⟩ := grows.persists id token present
  refine dead_revokePicked (live later reliesLater) ⟨id, became, laterPresent, is.family⟩
    fun key other found same => ?_
  have owned : other.userId = userId := by
    rw [reliesLater.kept.owners key id other became found laterPresent (same.trans is.family.symm),
      is.userId, mine]
  exact ⟨owned, beq_iff_eq.mpr owned⟩

/-- **Ending the sessions of a user ends the families of the tokens that were there**, but for the
family of the token that is spared. -/
theorem guarded_endSessions {exceptRawToken : Option String} (distinct : Distinct config draws)
    {ends : Nat → AccessDb → AccessDb → Prop}
    (right : ∀ version before after, (∀ id token, rows.refreshTokens.find? id = some token →
      token.userId = userId → Dead after.refreshTokens token.family ∨
        ∃ rawToken ∈ exceptRawToken, ∃ key spared, before.refreshTokens.find? key = some spared ∧
          spared.tokenHash = config.hashToken rawToken ∧ spared.family = token.family) →
      ends version before after) :
    (tokenChains config draws).Guarded session seen ends held
      (TokenService.endSessions config (draws session) userId exceptRawToken) id rows := by
  intro first reliesFirst _
  refine Discipline.wp_bind ?_
  intro second reliesSecond _
  refine Discipline.wp_check fun version _ => ?_
  refine Discipline.wp_read_bind fun third reliesThird _ => ?_
  -- what is written so far does not concern tokens
  have alone : ∀ db : AccessDb, TokenService.sparedToken config exceptRawToken
      { db with users := db.users.modify userId User.bump } =
      TokenService.sparedToken config exceptRawToken db := fun _ => rfl
  show (tokenChains config draws).wp session seen _ _ (do
    TokenService.revokeWhere (draws session) (TokenService.isOtherSession userId
      (TokenService.sparedToken config exceptRawToken
        { third with users := third.users.modify userId User.bump }))
    return version) _ third
  rw [alone]
  have lockedThen : AccessLock.userTokens userId ∈
      [AccessLock.user userId] ++ ([AccessLock.userTokens userId] ++ held) :=
    List.mem_cons_of_mem _ List.mem_cons_self
  refine Discipline.wp_bind (wp_revokeWhere ?_ lockedThen ?_)
  · exact fun _ => rfl
  intro taken now picks reliesNow lockedNow live later reliesLater
  have mineOf : ∀ {token : RefreshToken} {spared : Option (Nat × RefreshToken)},
      TokenService.isOtherSession userId spared token = true → token.userId = userId :=
    fun asks => eq_of_beq (Bool.and_eq_true_iff.mp asks).1
  obtain ⟨isAdvance, advances⟩ := advance_revokePicked (live later reliesLater)
    fun id token _ asks => mineOf asks
  refine ⟨promises_advance distinct lockedNow reliesLater.kept isAdvance advances nofun,
    right version later _ fun id token present mine => ?_⟩
  have grows : Extends third.refreshTokens later.refreshTokens :=
    reliesNow.grows.trans reliesLater.grows
  have sinceRows : Extends rows.refreshTokens later.refreshTokens :=
    ((reliesFirst.grows.trans reliesSecond.grows).trans reliesThird.grows).trans grows
  obtain ⟨became, laterPresent, is⟩ := sinceRows.persists id token present
  by_cases spares : ∃ row, TokenService.sparedToken config exceptRawToken third = some row ∧
      row.2.family = token.family
  · obtain ⟨row, spared, sameFamily⟩ := spares
    obtain ⟨hash, given, found⟩ := Option.bind_eq_some_iff.mp spared
    obtain ⟨rawToken, filtered, rfl⟩ := Option.map_eq_some_iff.mp given
    obtain ⟨rowPresent, rowHash⟩ := findToken_eq_some found
    obtain ⟨now, nowPresent, rowIs⟩ := grows.persists row.1 row.2 rowPresent
    exact Or.inr ⟨rawToken, (Option.filter_eq_some_iff.mp filtered).1, row.1, now, nowPresent,
      rowIs.tokenHash.trans rowHash, rowIs.family.trans sameFamily⟩
  · suffices dies : Dead (revokePicked picks (draws session).stampedAt later).refreshTokens
        token.family from Or.inl dies
    refine dead_revokePicked (live later reliesLater) ⟨id, became, laterPresent, is.family⟩
      fun key other found same => ?_
    have owned : other.userId = userId := by
      rw [reliesLater.kept.owners key id other became found laterPresent
        (same.trans is.family.symm), is.userId, mine]
    refine ⟨owned, Bool.and_eq_true_iff.mpr ⟨beq_iff_eq.mpr owned, ?_⟩⟩
    cases spared : TokenService.sparedToken config exceptRawToken third with
    | none => rfl
    | some row =>
      refine bne_iff_ne.mpr fun clash => spares ⟨row, spared, ?_⟩
      exact clash.symm.trans same

/-! ### Issuing tokens -/

theorem guarded_createRefreshToken {expiresIn : Option String} (distinct : Distinct config draws)
    (drawn : Drawn config draws session rows) {ends : IssuedToken → AccessDb → AccessDb → Prop}
    (right : ∀ issued before after, ends issued before after) :
    (tokenChains config draws).Guarded session seen ends held
      (TokenService.createRefreshToken config (draws session) userId none expiresIn) id rows := by
  intro first reliesFirst _ second reliesSecond _ later relies
  have unused : Drawn config draws session later :=
    relies.steady (reliesSecond.steady (reliesFirst.steady drawn))
  let token : RefreshToken := {
    userId
    tokenHash := config.hashToken (draws session).raw
    family := (draws session).family
    expiresAt := TokenService.expiry config (draws session) expiresIn }
  have isAdvance : later.refreshTokens.create token =
      advanceTokens later.refreshTokens (fun _ _ => false) 0 (some token) := by
    unfold advanceTokens
    rw [Table.modifyAll_eq_self _ fun _ _ _ => rfl]
    rfl
  have advances : Advance later.refreshTokens userId (fun _ _ => false) (some token) := by
    refine ⟨fun _ _ _ => nofun, ?_, ?_, ?_⟩
    · rintro _ ⟨⟩
      rfl
    · rintro _ ⟨⟩ id other found
      exact (unused id other found).1
    · rintro _ ⟨⟩
      exact Or.inl fun id other found => (unused id other found).2
  refine ⟨promises_advance distinct (List.mem_cons_self) relies.kept isAdvance advances ?_,
    right _ _ _⟩
  rintro _ ⟨⟩
  exact ⟨rfl, fun _ => rfl⟩

theorem guarded_rotateRow {row : Nat × RefreshToken} {version : Nat} {expiresIn : Option String}
    (distinct : Distinct config draws) (drawn : Drawn config draws session rows)
    (locked : .userTokens row.2.userId ∈ held)
    (present : rows.refreshTokens.find? row.1 = some row.2) (live : row.2.isRevoked = false)
    {ends : Option RotatedToken → AccessDb → AccessDb → Prop}
    (right : ∀ rotated before after, Extends rows.refreshTokens before.refreshTokens →
      Chained before.refreshTokens → before.refreshTokens.find? row.1 = some row.2 →
      ends (some rotated) before after) :
    (tokenChains config draws).Guarded session seen ends held
      (TokenService.rotateRow config (draws session) version row expiresIn) id rows := by
  intro first reliesFirst _ second reliesSecond _ later relies
  have lockedThen : AccessLock.userTokens row.2.userId ∈ [AccessLock.refreshToken row.1] ++ held :=
    List.mem_append_right _ locked
  have unused : Drawn config draws session later :=
    relies.steady (reliesSecond.steady (reliesFirst.steady drawn))
  have same : SameOwned row.2.userId rows.refreshTokens later.refreshTokens :=
    ((sameOwned_of_relies reliesFirst locked).trans
      (sameOwned_of_relies reliesSecond lockedThen)).trans (sameOwned_of_relies relies lockedThen)
  have presentNow := (same row.1 row.2 rfl).mpr present
  let token : RefreshToken := {
    userId := row.2.userId
    tokenHash := config.hashToken (draws session).raw
    family := row.2.family
    expiresAt := TokenService.expiry config (draws session) expiresIn }
  have isAdvance : (later.refreshTokens.modify row.1
      (RefreshToken.revoke (draws session).stampedAt)).create token =
      advanceTokens later.refreshTokens (fun id _ => id == row.1) (draws session).stampedAt
        (some token) := rfl
  have advances : Advance later.refreshTokens row.2.userId (fun id _ => id == row.1)
      (some token) := by
    refine ⟨?_, ?_, ?_, ?_⟩
    · intro id other found picked
      obtain rfl := eq_of_beq picked
      rw [presentNow] at found
      cases found
      exact ⟨rfl, live⟩
    · rintro _ ⟨⟩
      rfl
    · rintro _ ⟨⟩ id other found
      exact (unused id other found).1
    · rintro _ ⟨⟩
      exact Or.inr ⟨row.1, row.2, presentNow, beq_self_eq_true _, rfl⟩
  refine ⟨promises_advance distinct lockedThen relies.kept isAdvance advances ?_,
    right _ _ _ ((reliesFirst.grows.trans reliesSecond.grows).trans relies.grows) relies.kept
      presentNow⟩
  rintro _ ⟨⟩
  exact ⟨rfl, fun fresh => absurd rfl (fresh row.1 row.2 presentNow)⟩

/-! ### Refreshing -/

/-- **How a refresh ends**, from the rows it begins with. A new token is issued only in a family
that has a live token. A token that was consumed, and is presented after the window for an active
user, ends its family. -/
structure RefreshEnds (config : TokenConfig) (draw : TokenDraw) (rawToken : String)
    (seen : AccessDb → Prop) (start : AccessDb) (answer : Option RotatedToken)
    (before after : AccessDb) : Prop where
  live : answer.isSome = true → ∃ id token, before.refreshTokens.find? id = some token ∧
    token.tokenHash = config.hashToken rawToken ∧ ¬Dead before.refreshTokens token.family
  reused : ∀ id token, start.refreshTokens.find? id = some token →
    token.tokenHash = config.hashToken rawToken → token.isRevoked = true →
    TokenService.withinGrace config draw token = false →
    (∀ db, seen db → ∃ user, db.users.find? token.userId = some user ∧ user.isActive = true) →
    answer = none ∧ Dead after.refreshTokens token.family

variable {start : AccessDb} {rawToken : String} {version : Nat} {expiresIn : Option String}

theorem Dead.absurd_of_live {tokens : Table RefreshToken} {id family : Nat}
    (present : tokens.find? id = some token) (live : token.isRevoked = false)
    (mine : token.family = family) : ¬Dead tokens family :=
  fun dead => absurd (live.symm.trans (dead.revoked id token present mine)) Bool.false_ne_true

theorem mem_liveToken {family now : Nat} {row : Nat × RefreshToken}
    (found : db.liveToken family now = some row) :
    db.refreshTokens.find? row.1 = some row.2 ∧ row.2.family = family ∧
      row.2.isRevoked = false := by
  obtain ⟨present, met⟩ := Table.mem_select.mp (List.mem_of_getLast? found)
  simp only [Bool.and_eq_true, beq_iff_eq, Bool.not_eq_true'] at met
  exact ⟨present, met.1.1, met.1.2⟩

theorem guarded_rotateReused {key : Nat} (distinct : Distinct config draws)
    (drawn : Drawn config draws session rows)
    (since : Extends start.refreshTokens rows.refreshTokens) (kept : Chained rows.refreshTokens)
    (locked : .userTokens token.userId ∈ held) (present : rows.refreshTokens.find? key = some token)
    (hash : token.tokenHash = config.hashToken rawToken) (revoked : token.isRevoked = true) :
    (tokenChains config draws).Guarded session seen
      (RefreshEnds config (draws session) rawToken seen start) held
      (TokenService.rotateReused config (draws session) version token expiresIn) id rows := by
  unfold TokenService.rotateReused
  refine Discipline.wp_read_bind fun now reliesNow _ => ?_
  -- a token that was consumed is the row it was
  obtain ⟨same, presentNow, is⟩ := reliesNow.grows.persists key token present
  obtain rfl := is.revoked revoked
  simp only [id_eq]
  cases answer : if TokenService.withinGrace config (draws session) same then
      now.liveToken same.family (draws session).comparedAt else none with
  | none =>
    have ending : (tokenChains config draws).Guarded session seen
        (fun _ _ after => Dead after.refreshTokens same.family) held
        (TokenService.revokeFamilyById (draws session) same.family) id now :=
      guarded_revokeFamilyById distinct locked presentNow fun _ _ dead => dead
    refine ending.map fun _ before after dead => ⟨nofun, fun id token found sameHash _ _ _ => ?_⟩
    obtain ⟨_, became⟩ := presented since kept found present (hash.trans sameHash.symm)
    exact ⟨rfl, became.family ▸ dead⟩
  | some row =>
    split at answer
    · rename_i within
      obtain ⟨rowPresent, sameFamily, live⟩ := mem_liveToken answer
      have owner : row.2.userId = same.userId :=
        reliesNow.kept.owners row.1 key row.2 same rowPresent presentNow sameFamily
      refine guarded_rotateRow distinct (reliesNow.steady drawn) (owner ▸ locked) rowPresent live ?_
      intro rotated before after grows keptThen rowThen
      obtain ⟨then_, presentThen, became⟩ := grows.persists key same presentNow
      refine ⟨fun _ => ⟨key, then_, presentThen, became.tokenHash.trans hash, ?_⟩,
        fun id token found sameHash revokedAtStart outside _ => ?_⟩
      · exact Dead.absurd_of_live rowThen live (sameFamily.trans became.family.symm)
      · obtain ⟨_, became⟩ := presented since kept found present (hash.trans sameHash.symm)
        obtain rfl := became.revoked revokedAtStart
        exact absurd (outside.symm.trans within) Bool.false_ne_true
    · cases answer

theorem guarded_rotateLocked {key : Nat} (distinct : Distinct config draws)
    (drawn : Drawn config draws session rows)
    (since : Extends start.refreshTokens rows.refreshTokens)
    (locked : .userTokens token.userId ∈ held) (present : rows.refreshTokens.find? key = some token)
    (hash : token.tokenHash = config.hashToken rawToken) :
    (tokenChains config draws).Guarded session seen
      (RefreshEnds config (draws session) rawToken seen start) held
      (TokenService.rotateLocked config (draws session) version (config.hashToken rawToken)
        expiresIn) id rows := by
  unfold TokenService.rotateLocked
  refine Discipline.wp_read_bind fun now reliesNow _ => ?_
  obtain ⟨became, found, is⟩ := findToken_of_extends reliesNow.grows reliesNow.kept present
  obtain ⟨nowPresent, nowHash⟩ := findToken_eq_some found
  have sinceNow : Extends start.refreshTokens now.refreshTokens := since.trans reliesNow.grows
  have lockedNow : AccessLock.userTokens became.userId ∈ held := is.userId ▸ locked
  rw [hash] at found nowHash
  simp only [id_eq, found]
  split
  · rename_i revoked
    exact guarded_rotateReused distinct (reliesNow.steady drawn) sinceNow reliesNow.kept lockedNow
      nowPresent nowHash revoked
  rename_i notRevoked
  have live : became.isRevoked = false := Bool.eq_false_of_not_eq_true notRevoked
  -- a token that is live by now was live at the start
  have liveAtStart : ∀ id first, start.refreshTokens.find? id = some first →
      first.tokenHash = config.hashToken rawToken → first.isRevoked ≠ true := by
    intro id first firstFound sameHash revoked
    obtain ⟨_, firstBecame⟩ := presented sinceNow reliesNow.kept firstFound nowPresent
      (nowHash.trans sameHash.symm)
    obtain rfl := firstBecame.revoked revoked
    exact notRevoked revoked
  split
  · intro second reliesSecond _ later relies
    have lockedThen : AccessLock.userTokens became.userId ∈ [AccessLock.refreshToken key] ++ held :=
      List.mem_append_right _ lockedNow
    have same : SameOwned became.userId now.refreshTokens later.refreshTokens :=
      (sameOwned_of_relies reliesSecond lockedNow).trans (sameOwned_of_relies relies lockedThen)
    have advances : Advance later.refreshTokens became.userId (fun id _ => id == key) none := by
      refine ⟨?_, nofun, nofun, nofun⟩
      intro id other otherFound picked
      obtain rfl := eq_of_beq picked
      rw [(same id became rfl).mpr nowPresent] at otherFound
      cases otherFound
      exact ⟨rfl, live⟩
    refine ⟨promises_advance distinct lockedThen relies.kept rfl advances nofun, nofun, ?_⟩
    intro id first firstFound sameHash revoked
    exact absurd revoked (liveAtStart id first firstFound sameHash)
  · refine guarded_rotateRow distinct (reliesNow.steady drawn) lockedNow nowPresent live ?_
    intro rotated before after grows keptThen rowThen
    refine ⟨fun _ => ⟨key, became, rowThen, nowHash, Dead.absurd_of_live rowThen live rfl⟩, ?_⟩
    intro id first firstFound sameHash revoked
    exact absurd revoked (liveAtStart id first firstFound sameHash)

theorem guarded_refresh (distinct : Distinct config draws) (drawn : Drawn config draws session rows) :
    (tokenChains config draws).Guarded session seen
      (RefreshEnds config (draws session) rawToken seen rows) []
      (TokenService.rotateRefreshToken config (draws session) rawToken expiresIn) id rows := by
  unfold TokenService.rotateRefreshToken
  refine Discipline.wp_read_bind fun first reliesFirst _ => ?_
  cases owner : first.ownerOf (config.hashToken rawToken) with
  | none =>
    simp only [id_eq, owner]
    refine Discipline.commits_id fun later _ => ⟨nofun, fun id token present sameHash => ?_⟩
    obtain ⟨became, found, _⟩ := findToken_of_extends reliesFirst.grows reliesFirst.kept present
    rw [AccessDb.ownerOf, ← sameHash, found] at owner
    cases owner
  | some userId =>
    obtain ⟨row, rowFound, rfl⟩ := Option.map_eq_some_iff.mp owner
    obtain ⟨rowPresent, rowHash⟩ := findToken_eq_some rowFound
    simp only [id_eq, owner]
    intro second reliesSecond _
    refine Discipline.wp_read_bind fun third reliesThird sees => ?_
    have sinceFirst : Extends first.refreshTokens third.refreshTokens :=
      reliesSecond.grows.trans reliesThird.grows
    obtain ⟨now, nowPresent, is⟩ := sinceFirst.persists row.1 row.2 rowPresent
    have since : Extends rows.refreshTokens third.refreshTokens :=
      reliesFirst.grows.trans sinceFirst
    have nowHash : now.tokenHash = config.hashToken rawToken := is.tokenHash.trans rowHash
    cases user : (third.users.find? row.2.userId).filter User.isActive with
    | none =>
      simp only [Function.comp_apply, id_eq, user]
      refine Discipline.commits_id fun later _ => ⟨nofun, ?_⟩
      intro id token present sameHash _ _ active
      obtain ⟨_, became⟩ := presented since reliesThird.kept present nowPresent
        (nowHash.trans sameHash.symm)
      obtain ⟨owner, ownerFound, isActive⟩ := active third sees
      rw [← became.userId, is.userId] at ownerFound
      rw [ownerFound] at user
      simp [Option.filter, isActive] at user
    | some user =>
      simp only [Function.comp_apply, id_eq, user]
      refine guarded_rotateLocked distinct ?_ since ?_ nowPresent nowHash
      · exact reliesThird.steady (reliesSecond.steady (reliesFirst.steady drawn))
      · rw [is.userId]
        exact List.mem_cons_self

end Guarded

end OpenEstate
