/-
**Refresh tokens in any interleaving.**

Any number of calls of the token service run over each other, statement by statement, along with
other statements that do not write refresh tokens.

* `TokenCall.guarded_statements`: every call keeps the discipline of the tokens, and ends as it
  should;
* `refresh_families`: the families are linear, and revocation is final.
-/

import OpenEstate.Access.TokenRace

namespace OpenEstate

open Relational

/-! ### Calls -/

def LeavesTokens (write : AccessDb → AccessDb) : Prop :=
  ∀ db, (write db).refreshTokens = db.refreshTokens

/-- What is called: a login, a refresh, a logout, from everywhere or from here, the end of a user's
sessions; or other statements, that leave the refresh tokens alone. -/
inductive TokenCall
  | login (userId : Nat) (expiresIn : Option String)
  | refresh (rawToken : String) (expiresIn : Option String)
  | logout (rawToken : String)
  | logoutAll (userId : Nat)
  | endSessions (userId : Nat) (exceptRawToken : Option String)
  | other (tx : AccessTx Unit) (alone : tx.Writes LeavesTokens)

def TokenCall.statements (config : TokenConfig) (draw : TokenDraw) :
    TokenCall → AccessTx (Option RotatedToken)
  | .login userId expiresIn => do
    let _ ← TokenService.createRefreshToken config draw userId none expiresIn
    return none
  | .refresh rawToken expiresIn => TokenService.rotateRefreshToken config draw rawToken expiresIn
  | .logout rawToken => do
    TokenService.revokeFamily config draw rawToken
    return none
  | .logoutAll userId => do
    TokenService.revokeAllForUser draw userId
    return none
  | .endSessions userId exceptRawToken => do
    let _ ← TokenService.endSessions config draw userId exceptRawToken
    return none
  | .other tx _ => do
    tx
    return none

/-- Whether a call is to end the family of a token: a logout presents the token, or ends all
sessions of its user, or all but those of another family. -/
def TokenCall.EndsFamilyOf (config : TokenConfig) (token : RefreshToken) (db : AccessDb) :
    TokenCall → Prop
  | .logout rawToken => token.tokenHash = config.hashToken rawToken
  | .logoutAll userId => token.userId = userId
  | .endSessions userId exceptRawToken => token.userId = userId ∧
      ∀ rawToken ∈ exceptRawToken, ∀ id spared, db.refreshTokens.find? id = some spared →
        spared.tokenHash = config.hashToken rawToken → spared.family ≠ token.family
  | _ => False

def TokenCall.Reuses (config : TokenConfig) (draw : TokenDraw) (token : RefreshToken) :
    TokenCall → Prop
  | .refresh rawToken _ => token.tokenHash = config.hashToken rawToken ∧ token.isRevoked = true ∧
      TokenService.withinGrace config draw token = false
  | _ => False

def AccessDb.ActiveOwner (db : AccessDb) (token : RefreshToken) : Prop :=
  ∃ user, db.users.find? token.userId = some user ∧ user.isActive = true

structure TokenCall.Ends (config : TokenConfig) (draw : TokenDraw) (call : TokenCall)
    (seen : AccessDb → Prop) (start : AccessDb) (answer : Option RotatedToken)
    (before after : AccessDb) : Prop where
  live : answer.isSome = true → ∃ rawToken expiresIn id token, call = .refresh rawToken expiresIn ∧
    before.refreshTokens.find? id = some token ∧ token.tokenHash = config.hashToken rawToken ∧
      ¬Dead before.refreshTokens token.family
  ended : ∀ id token, start.refreshTokens.find? id = some token →
    call.EndsFamilyOf config token before → Dead after.refreshTokens token.family
  reused : ∀ id token, start.refreshTokens.find? id = some token →
    call.Reuses config draw token → (∀ db, seen db → db.ActiveOwner token) →
    answer = none ∧ Dead after.refreshTokens token.family

section Calls

variable {ι : Type} {config : TokenConfig} {draws : ι → TokenDraw} {session : ι}
  {seen : AccessDb → Prop} {rows : AccessDb}

theorem TokenCall.guarded_statements (distinct : Distinct config draws)
    (drawn : Drawn config draws session rows) (call : TokenCall) :
    (tokenChains config draws).Guarded session seen
      (call.Ends config (draws session) seen rows) [] (call.statements config (draws session)) id
      rows := by
  cases call with
  | login userId expiresIn =>
    have begun : (tokenChains config draws).Guarded session seen (fun _ _ _ => True) []
        (TokenService.createRefreshToken config (draws session) userId none expiresIn) id rows :=
      guarded_createRefreshToken distinct drawn fun _ _ _ => trivial
    exact begun.map fun _ _ _ _ => ⟨nofun, nofun, nofun⟩
  | refresh rawToken expiresIn =>
    have refreshed : (tokenChains config draws).Guarded session seen
        (RefreshEnds config (draws session) rawToken seen rows) []
        (TokenService.rotateRefreshToken config (draws session) rawToken expiresIn) id rows :=
      guarded_refresh distinct drawn
    refine Discipline.wp_mono refreshed (fun _ sees => sees) ?_
    intro held answer written now commits later relies
    obtain ⟨promises, ends⟩ := commits later relies
    refine ⟨promises, ?_, fun _ _ _ => nofun, ?_⟩
    · intro issued
      obtain ⟨id, token, present, hash, alive⟩ := ends.live issued
      exact ⟨rawToken, expiresIn, id, token, rfl, present, hash, alive⟩
    · intro id token present ⟨hash, revoked, outside⟩ active
      exact ends.reused id token present hash revoked outside active
  | logout rawToken =>
    have ended : (tokenChains config draws).Guarded session seen
        (fun _ _ after => ∀ id token, rows.refreshTokens.find? id = some token →
          token.tokenHash = config.hashToken rawToken → Dead after.refreshTokens token.family) []
        (TokenService.revokeFamily config (draws session) rawToken) id rows :=
      guarded_revokeFamily distinct fun _ _ dead => dead
    exact ended.map fun _ _ _ dead => ⟨nofun, dead, fun _ _ _ => nofun⟩
  | logoutAll userId =>
    have ended : (tokenChains config draws).Guarded session seen
        (fun _ _ after => ∀ id token, rows.refreshTokens.find? id = some token →
          token.userId = userId → Dead after.refreshTokens token.family) []
        (TokenService.revokeAllForUser (draws session) userId) id rows :=
      guarded_revokeAllForUser distinct fun _ _ dead => dead
    exact ended.map fun _ _ _ dead => ⟨nofun, dead, fun _ _ _ => nofun⟩
  | endSessions userId exceptRawToken =>
    have ended : (tokenChains config draws).Guarded session seen
        (fun _ before after => ∀ id token, rows.refreshTokens.find? id = some token →
          TokenCall.EndsFamilyOf config token before (.endSessions userId exceptRawToken) →
          Dead after.refreshTokens token.family) []
        (TokenService.endSessions config (draws session) userId exceptRawToken) id rows := by
      refine guarded_endSessions distinct fun _ before after dies id token present ends => ?_
      rcases dies id token present ends.1 with
        dead | ⟨rawToken, given, key, spared, sparedPresent, hash, same⟩
      · exact dead
      · exact absurd same (ends.2 rawToken given key spared sparedPresent hash)
    exact ended.map fun _ _ _ dead => ⟨nofun, dead, fun _ _ _ => nofun⟩
  | other tx alone =>
    have harmless : (tokenChains config draws).Guarded session seen (fun _ _ _ => True) [] tx id
        rows := by
      refine Discipline.wp_harmless alone (fun _ => rfl)
        (fun first second db => (second _).trans (first db)) ?_ fun _ _ _ => trivial
      intro write leaves held now kept
      refine ⟨?_, ?_, fun other _ => ?_, fun lock _ userId _ => ?_⟩
      · show Chained (write now).refreshTokens
        exact (leaves now).symm ▸ kept
      · show Extends now.refreshTokens (write now).refreshTokens
        exact (leaves now).symm ▸ .refl _
      · show Unused _ _ now.refreshTokens → Unused _ _ (write now).refreshTokens
        exact fun unused => (leaves now).symm ▸ unused
      · rw [leaves now]
        exact fun _ _ _ => Iff.rfl
    exact harmless.map fun _ _ _ _ => ⟨nofun, nofun, nofun⟩

theorem TokenCall.EndsFamilyOf.of_extends {call : TokenCall} {token : RefreshToken}
    {before last : AccessDb} (ends : call.EndsFamilyOf config token last)
    (grows : Extends before.refreshTokens last.refreshTokens) :
    call.EndsFamilyOf config token before := by
  cases call with
  | endSessions userId exceptRawToken =>
    refine ⟨ends.1, fun rawToken given id spared present hash => ?_⟩
    obtain ⟨became, found, is⟩ := grows.persists id spared present
    rw [← is.family]
    exact ends.2 rawToken given id became found (is.tokenHash.trans hash)
  | login _ _ | refresh _ _ | other _ _ => exact ends.elim
  | logout _ | logoutAll _ => exact ends

end Calls

/-! ### Interleavings -/

section Interleavings

variable {ι : Type} [DecidableEq ι] (config : TokenConfig) (draws : ι → TokenDraw)
  (calls : ι → TokenCall)

abbrev TokenWorld (ι : Type) : Type :=
  World ι AccessDb AccessLock ServiceError (Option RotatedToken)

def tokenStart (rows : AccessDb) : TokenWorld ι :=
  World.start (fun session => (calls session).statements config (draws session))
    { rows with refreshTokens := .empty }

def NotBegun (world : TokenWorld ι) (session : ι) : Prop :=
  world.sessions session = .active ((calls session).statements config (draws session)) id

variable {config draws calls}

/-- From any world that occurs, every call keeps the discipline. It ends as it should from the rows
it began with, and from those of that world if it has not begun there. -/
theorem governed_since (distinct : Distinct config draws) {rows : AccessDb} {world : TokenWorld ι}
    (occurs : Reachable World.exec (tokenStart config draws calls rows) world)
    (seen : AccessDb → Prop) :
    (tokenChains config draws).Governed seen
      (fun session answer before after =>
        (∃ often start, (calls session).Ends config (draws session) often start answer before
          after) ∧
        (NotBegun config draws calls world session →
          (calls session).Ends config (draws session) seen world.rows answer before after))
      world world := by
  have nothingDrawn : ∀ session, Drawn config draws session { rows with refreshTokens := .empty } :=
    fun session id token found => nomatch found
  have governed := Discipline.governed_of_reachable (Discipline.governed_start chained_empty
    fun session => (calls session).guarded_statements distinct (nothingDrawn session)) occurs
  refine Discipline.governed_self governed.kept fun session todo written active => ?_
  by_cases notBegun : NotBegun config draws calls world session
  · have uncommitted : ¬world.HasCommitted session := by
      rintro ⟨answer, committed⟩
      rw [notBegun] at committed
      cases committed
    have drawn : Drawn config draws session world.rows :=
      governed.steady session uncommitted (nothingDrawn session)
    rw [notBegun] at active
    cases active
    refine ⟨[], nofun, ?_⟩
    refine Discipline.wp_mono ((calls session).guarded_statements distinct drawn)
      (fun _ sees => sees) fun held answer written now commits later relies => ?_
    obtain ⟨promises, ends⟩ := commits later relies
    exact ⟨promises, ⟨seen, world.rows, ends⟩, fun _ => ends⟩
  · obtain ⟨held, mine, guarded⟩ := (governed.stands session).of_active active
    refine ⟨held, mine, Discipline.wp_mono guarded (fun _ _ => trivial)
      fun held answer written now commits later relies => ?_⟩
    obtain ⟨promises, ends⟩ := commits later relies
    exact ⟨promises, ⟨_, _, ends⟩, fun begins => absurd begins notBegun⟩

/-- **Refresh token families are linear, and revocation is final**, in every interleaving of the
statements of logins, refreshes, logouts and ends of sessions, and of other statements. In every
world that occurs, a family has at most one live token. From there on:

* a dead family stays dead, and no refresh that is not over by then answers a new token for a token
  of it;
* a call that has not begun and is to end the family of a token that is there leaves it dead;
* a call that has not begun and presents a consumed token after the window, for a user that stays
  active, answers nothing and leaves the family dead. -/
theorem refresh_families (config : TokenConfig) (draws : ι → TokenDraw)
    (distinct : Distinct config draws) (calls : ι → TokenCall) (rows : AccessDb)
    (world : TokenWorld ι) (occurs : Reachable World.exec (tokenStart config draws calls rows) world)
    (schedule : List (Choice ι)) :
    Linear world.rows.refreshTokens ∧
    (∀ family, Dead world.rows.refreshTokens family →
      Dead (run World.exec world schedule).rows.refreshTokens family ∧
      ∀ session rawToken expiresIn rotated, calls session = .refresh rawToken expiresIn →
        ¬world.HasCommitted session →
        (run World.exec world schedule).sessions session = .committed (some rotated) →
        ∀ id token, (run World.exec world schedule).rows.refreshTokens.find? id = some token →
          token.tokenHash = config.hashToken rawToken → token.family ≠ family) ∧
    ∀ session, NotBegun config draws calls world session →
      ∀ id token, world.rows.refreshTokens.find? id = some token →
        ((calls session).EndsFamilyOf config token (run World.exec world schedule).rows →
          (run World.exec world schedule).HasCommitted session →
          Dead (run World.exec world schedule).rows.refreshTokens token.family) ∧
        ((calls session).Reuses config (draws session) token →
          (∀ visited ∈ states World.exec world schedule, visited.rows.ActiveOwner token) →
          ∀ answer, (run World.exec world schedule).sessions session = .committed answer →
            answer = none ∧ Dead (run World.exec world schedule).rows.refreshTokens token.family) := by
  have begins := governed_since distinct occurs
    fun db => ∃ visited ∈ states World.exec world schedule, visited.rows = db
  have governed := Discipline.governed_of_states begins schedule
    (fun visited member => ⟨visited, member, rfl⟩) _ (run_mem_states world schedule)
  refine ⟨begins.kept.linear, fun family dead => ⟨governed.grows.dead family dead, ?_⟩, ?_⟩
  · intro session rawToken expiresIn rotated is uncommitted committed id token found hash mine
    rcases (governed.stands session).of_committed committed with
      early | ⟨before, after, since, _, grows, ⟨⟨_, _, ends⟩, _⟩, more⟩
    · exact uncommitted early
    obtain ⟨presentedRaw, _, key, presentedToken, same, present, presentedHash, alive⟩ :=
      ends.live rfl
    rw [is] at same
    cases same
    obtain ⟨_, became⟩ := presented (grows.trans more) governed.kept present found
      (hash.trans presentedHash.symm)
    rw [← became.family, mine] at alive
    exact alive (since.dead family dead)
  · intro session notBegun id token present
    have uncommitted : ¬world.HasCommitted session := by
      rintro ⟨answer, committed⟩
      rw [notBegun] at committed
      cases committed
    constructor
    · rintro ends ⟨answer, committed⟩
      rcases (governed.stands session).of_committed committed with
        early | ⟨before, after, _, _, grows, ⟨_, right⟩, more⟩
      · exact absurd early uncommitted
      · exact more.dead _ ((right notBegun).ended id token present
          (ends.of_extends (grows.trans more)))
    · intro reuses active answer committed
      rcases (governed.stands session).of_committed committed with
        early | ⟨before, after, _, _, _, ⟨_, right⟩, more⟩
      · exact absurd early uncommitted
      · obtain ⟨nothing, dead⟩ := (right notBegun).reused id token present reuses
          fun db ⟨visited, member, is⟩ => is ▸ active visited member
        exact ⟨nothing, more.dead _ dead⟩

end Interleavings

/-! ### A token presented late -/

/-- A login, a refresh with the token it issued, and a refresh with the same token long after. -/
inductive Replay
  | login | refresh | late
  deriving DecidableEq

def replayConfig : TokenConfig where
  hashToken := id

def replayDraws : Replay → TokenDraw
  | .login => ⟨"first", 0, 0, 0, 0, 0⟩
  | .refresh => ⟨"second", 1, 1000, 1000, 1000, 1000⟩
  | .late => ⟨"third", 2, 60000, 60000, 60000, 60000⟩

def replayCalls : Replay → TokenCall
  | .login => .login 1 none
  | .refresh => .refresh "first" none
  | .late => .refresh "first" none

def replayWorld : TokenWorld Replay :=
  run World.exec (tokenStart replayConfig replayDraws replayCalls smallCompany)
    (List.replicate 3 (.advance .login) ++ List.replicate 7 (.advance .refresh))

def replayedToken : RefreshToken where
  userId := 1
  tokenHash := "first"
  family := 0
  isRevoked := true
  revokedAt := some 1000
  expiresAt := computeExpiry 0 "7d"

theorem replay_distinct : Distinct replayConfig replayDraws := by
  intro session other different
  cases session <;> cases other <;> first | exact absurd rfl different | decide

/-- **The late refresh answers nothing, and the family of the token is dead.** -/
theorem replay_endsFamily :
    (run World.exec replayWorld (List.replicate 8 (.advance .late))).sessions .late =
      .committed none ∧
    Dead (run World.exec replayWorld (List.replicate 8 (.advance .late))).rows.refreshTokens 0 := by
  have families := refresh_families replayConfig replayDraws replay_distinct replayCalls
    smallCompany replayWorld (reachable_run _ _) (List.replicate 8 (.advance .late))
  have committed : (run World.exec replayWorld (List.replicate 8 (.advance .late))).sessions .late =
      .committed none := rfl
  have present : replayWorld.rows.refreshTokens.find? 0 = some replayedToken := by decide
  have active : ∀ visited ∈ states World.exec replayWorld (List.replicate 8 (.advance .late)),
      (visited.rows.users.find? 1).any User.isActive = true := by decide
  have late := (families.2.2 .late rfl 0 replayedToken present).2
    ⟨rfl, rfl, by decide⟩ (fun visited member => ?_) none committed
  · exact ⟨committed, late.2⟩
  · obtain ⟨user, found, isActive⟩ := (Option.any_eq_true _ _).mp (active visited member)
    exact ⟨user, found, isActive⟩

end OpenEstate
