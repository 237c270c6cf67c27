/-
**Which account a login finds.**

A login looks an account up by what is typed in: on the staff surface by the e-mail, on the portal by
the e-mail or the phone among the accounts that name an applicant or a broker. The lookup asks for
one row and for no order, so the database answers any of the rows that match. E-mails are unique
within a company only, and phones not at all.

* `LoginCall.MayFind`: what a lookup may answer; `LoginCall.signIn`: the login that goes on with it;
* `LoginCall.signIn_staff`: on the staff surface, that is the login statement by statement;
* `Population`: accounts as the constraints of the database allow them; `OwnLogin`: an account that
  presents its own identifier and password on its own surface;
* `OwnLogin.findsAccount_iff`: when that signs the account in, whichever row is answered;
* `equal_emails_shut_out`: two accounts of which one is always shut out.
-/

import OpenEstate.Access.Invite
import OpenEstate.Access.Lockout

namespace OpenEstate

open Relational

/-! ### Logins -/

/-- What a login answers that is let in: the tokens, or a pending token for the second factor. -/
inductive LoginAnswer
  | staff (tokens : SignedIn)
  | portal (tokens : PortalSignedIn)
  | requiresTwoFactor (surface : Surface) (sub av : Nat)

def LoginAnswer.sub : LoginAnswer → Nat
  | .staff tokens => tokens.accessToken.sub
  | .portal tokens => tokens.accessToken.sub
  | .requiresTwoFactor _ sub _ => sub

def Account.surface (account : Account) : Surface :=
  if account.isPortal then .portal else .staff

namespace LoginCall

def surface : LoginCall → Surface
  | .staff _ => .staff
  | .portal _ => .portal

def password : LoginCall → String
  | .staff dto => dto.password
  | .portal dto => dto.password

/-- Whether an account has what is typed in: its e-mail, or on the portal its phone. -/
def names (call : LoginCall) (user : User) : Bool :=
  match call with
  | .staff dto => user.email == some dto.email
  | .portal dto => user.email == some dto.identifier || user.phone == some dto.identifier

def asks (call : LoginCall) (user : User) : Bool :=
  match call with
  | .staff _ => call.names user
  | .portal _ => call.names user && !(user.applicantId.isNone && user.brokerId.isNone)

/-- **What a lookup may answer**: any row that matches, and nothing if there is none. -/
def MayFind (call : LoginCall) (db : AccessDb) : Option Nat → Prop
  | some id => ∃ user, db.users.find? id = some user ∧ call.asks user = true
  | none => ∀ id user, db.users.find? id = some user → call.asks user = false

def check (now : Nat) (found : Option Account) : LoginCall → Except ServiceError Account
  | .staff _ => AuthService.checkAccount now found
  | .portal _ => PortalAuthService.checkAccount now found

end LoginCall

section Service

variable (config : InviteConfig) (draw : TokenDraw)

def issueTokens (surface : Surface) (account : Account) (av : Nat) (db : AccessDb) :
    Except ServiceError LoginAnswer × AccessDb :=
  let expiresIn := match surface with
    | .staff => none
    | .portal => some config.portalRefreshExpiresIn
  match (TokenService.createRefreshToken config.toTokenConfig draw account.id none expiresIn).run
      db with
  | .ok (issued, after) =>
    (.ok (match surface with
      | .staff => .staff ⟨account.accessToken av, issued.raw, issued.expiresAt⟩
      | .portal => .portal ⟨account.portalAccessToken av, issued.raw, issued.expiresAt⟩), after)
  | .error error => (.error error, db)

/-- What follows on a password that was right: the question for the second factor, or the tokens.
Both are signed with the session version as it is now. -/
def passPassword (surface : Surface) (account : Account) (db : AccessDb) :
    Except ServiceError LoginAnswer × AccessDb :=
  match db.users.find? account.id with
  | some now =>
    if account.user.needsTwoFactor then
      (.ok (.requiresTwoFactor surface account.id now.authzVersion), db)
    else issueTokens config draw surface account now.authzVersion db
  | none => (.error (.error "Cannot issue a token for a user that does not exist"), db)

def LoginCall.signIn (call : LoginCall) (found : Option Nat) (db : AccessDb) :
    Except ServiceError LoginAnswer × AccessDb :=
  match call.check draw.comparedAt (found.bind db.accountOf) with
  | .ok account =>
    if config.verify account.user.passwordHash call.password then
      passPassword config draw call.surface account (db.updateUser account.id User.attemptsCleared)
    else (.error AuthService.invalidCredentials, db.updateUser account.id
      (User.failedAttempt account.user.failedLoginAttempts draw.stampedAt))
  | .error error => (.error error, db)

end Service

/-! ### What a lookup answers -/

section Lookup

variable {config : InviteConfig} {draw : TokenDraw} {call : LoginCall} {db : AccessDb}

theorem LoginCall.mayFind_first (call : LoginCall) (db : AccessDb) :
    call.MayFind db ((db.users.findFirst? fun _ user => call.asks user).map Prod.fst) := by
  cases first : db.users.findFirst? fun _ user => call.asks user with
  | none =>
    intro id user found
    have none_ := List.find?_eq_none.mp first (id, user) (Table.find?_eq_some.mp found)
    simpa using none_
  | some row =>
    have first : db.users.rows.find? (fun entry => call.asks entry.2) = some row := first
    have asked := List.find?_some first
    exact ⟨row.2, Table.find?_eq_some.mpr (List.mem_of_find?_eq_some first), asked⟩

theorem LoginCall.exists_mayFind (call : LoginCall) (db : AccessDb) :
    ∃ found, call.MayFind db found :=
  ⟨_, call.mayFind_first db⟩

variable {account : Account}

theorem LoginCall.check_eq_ok {now : Nat} {found : Option Account}
    (checked : call.check now found = .ok account) : found = some account := by
  cases call with
  | staff dto =>
    obtain ⟨value, isFound, checked⟩ := bind_eq_ok.mp checked
    obtain ⟨_, _, checked⟩ := bind_eq_ok.mp checked
    obtain ⟨_, _, checked⟩ := bind_eq_ok.mp checked
    cases checked
    exact (Option.filter_eq_some_iff.mp (orThrow_eq_ok.mp isFound)).1
  | portal dto =>
    obtain ⟨value, isFound, checked⟩ := bind_eq_ok.mp checked
    obtain ⟨_, _, checked⟩ := bind_eq_ok.mp checked
    cases checked
    exact (Option.filter_eq_some_iff.mp (orThrow_eq_ok.mp isFound)).1

theorem LoginCall.check_of_own {now : Nat} (active : account.user.isActive = true)
    (unlocked : ∀ deadline ∈ account.user.lockedUntil, deadline ≤ now)
    (surface : account.surface = call.surface) : call.check now (some account) = .ok account := by
  have kept : (some account).filter (fun account => account.user.isActive) = some account := by
    rw [Option.filter_some, if_pos active]
  cases call with
  | staff dto =>
    have staff : account.isPortal = false := by
      cases portal : account.isPortal with
      | false => rfl
      | true => simp [Account.surface, LoginCall.surface, portal] at surface
    exact bind_eq_ok.mpr ⟨account, orThrow_eq_ok.mpr kept, bind_eq_ok.mpr ⟨(),
      ensure_eq_ok.mpr staff, bind_eq_ok.mpr ⟨(), ensure_eq_ok.mpr unlocked, rfl⟩⟩⟩
  | portal dto =>
    exact bind_eq_ok.mpr ⟨account, orThrow_eq_ok.mpr kept, bind_eq_ok.mpr ⟨(),
      ensure_eq_ok.mpr unlocked, rfl⟩⟩

theorem issueTokens_sub {surface : Surface} {av : Nat} {answer : LoginAnswer}
    (answered : (issueTokens config draw surface account av db).1 = .ok answer) :
    answer.sub = account.id := by
  unfold issueTokens at answered
  dsimp only at answered
  split at answered
  · cases surface <;> cases answered <;> rfl
  · cases answered

theorem issueTokens_ok (surface : Surface) (account : Account) (av : Nat) (db : AccessDb) :
    ∃ answer, (issueTokens config draw surface account av db).1 = .ok answer :=
  ⟨_, rfl⟩

theorem passPassword_sub {surface : Surface} {answer : LoginAnswer}
    (answered : (passPassword config draw surface account db).1 = .ok answer) :
    answer.sub = account.id := by
  unfold passPassword at answered
  split at answered
  · split at answered
    · cases answered
      rfl
    · exact issueTokens_sub answered
  · cases answered

theorem accountOf_id {id : Nat} (found : db.accountOf id = some account) :
    account.id = id ∧ db.users.find? id = some account.user := by
  obtain ⟨user, present, found⟩ := Option.bind_eq_some_iff.mp found
  obtain ⟨role, _, found⟩ := Option.bind_eq_some_iff.mp found
  cases found
  exact ⟨rfl, present⟩

theorem LoginCall.signIn_sub {found : Option Nat} {answer : LoginAnswer}
    (answered : (call.signIn config draw found db).1 = .ok answer) : found = some answer.sub := by
  unfold LoginCall.signIn at answered
  split at answered
  · rename_i account checked
    obtain ⟨id, isId, isFound⟩ := Option.bind_eq_some_iff.mp (LoginCall.check_eq_ok checked)
    split at answered
    · rw [isId, passPassword_sub answered, (accountOf_id isFound).1]
    · cases answered
  · cases answered

theorem LoginCall.signIn_of_own {id : Nat} (isFound : db.accountOf id = some account)
    (checked : call.check draw.comparedAt (some account) = .ok account)
    (password : config.verify account.user.passwordHash call.password = true) :
    ∃ answer, (call.signIn config draw (some id) db).1 = .ok answer := by
  obtain ⟨rfl, present⟩ := accountOf_id isFound
  have stays := AccessDb.find?_updateUser_self present User.attemptsCleared
  unfold LoginCall.signIn
  rw [Option.bind_some, isFound, checked]
  simp only [password, if_true, passPassword, stays]
  split
  · exact ⟨_, rfl⟩
  · exact issueTokens_ok _ _ _ _

end Lookup

/-! ### A login, statement by statement -/

def AuthSession.Answers : AuthSession → Except ServiceError LoginAnswer → Prop
  | .loggedIn tokens, .ok (.staff answered) => tokens = answered
  | .requiresTwoFactor sub av, .ok (.requiresTwoFactor _ id version) => sub = id ∧ av = version
  | .refused error, .error answered => error = answered
  | _, _ => False

def alone (session : AuthSession) (db : AccessDb) : Shared Unit AccessDb AuthSession :=
  ⟨db, fun _ => session⟩

section Alone

variable {config : AuthConfig} {session next : AuthSession} {db after : AccessDb}

theorem run_alone_cons {draw : TokenDraw} {rest : List (Unit × TokenDraw)}
    (moved : session.move config draw db = some (next, after)) :
    run (AuthSession.exec config) (alone session db) (((), draw) :: rest) =
      run (AuthSession.exec config) (alone next after) rest := by
  have accepted : AuthSession.exec config ((), draw) (alone session db) =
      .ok (alone next after) := by
    refine Shared.exec_eq_ok.mpr ⟨next, after, moved, ?_⟩
    unfold alone
    congr
  rw [run, accepted]

theorem run_alone_ended (schedule : List (Unit × TokenDraw))
    (ended : ∀ draw db, session.move config draw db = none) :
    run (AuthSession.exec config) (alone session db) schedule = alone session db := by
  induction schedule with
  | nil => rfl
  | cons input rest ih =>
    have refused : AuthSession.exec config input (alone session db) = .error () := by
      have nothing : (AuthSession.move config input.2) ((alone session db).sessions input.1)
          (alone session db).rows = none := ended _ _
      unfold AuthSession.exec Shared.exec
      rw [nothing]
    rw [run, refused]
    exact ih

end Alone

/-- **A login of the staff, run alone**, is its statements one after the other, if the lookup answers
the first row in the order of creation. -/
theorem LoginCall.signIn_staff (config : InviteConfig) (draw : TokenDraw) (dto : LoginDto)
    (db : AccessDb) :
    ((run (AuthSession.exec config.toAuthConfig) (alone (.login dto) db)
      (List.replicate 4 ((), draw))).sessions ()).Answers
        ((LoginCall.staff dto).signIn config draw
          ((db.users.findFirst? fun _ user => (LoginCall.staff dto).asks user).map Prod.fst)
          db).1 := by
  have lookup : ((db.users.findFirst? fun _ user => (LoginCall.staff dto).asks user).map
      Prod.fst).bind db.accountOf = db.accountWith dto.email := by
    unfold AccessDb.accountWith
    rw [Option.bind_map]
    rfl
  unfold LoginCall.signIn
  rw [lookup]
  simp only [LoginCall.check, List.replicate]
  cases checked : AuthService.checkAccount draw.comparedAt (db.accountWith dto.email) with
  | error error =>
    have read : (AuthSession.login dto).move config.toAuthConfig draw db =
        some (.refused error, db) := by
      simp only [AuthSession.move, checked]
    rw [run_alone_cons read, run_alone_ended _ fun _ _ => rfl]
    rfl
  | ok account =>
    have read : (AuthSession.login dto).move config.toAuthConfig draw db =
        some (.verifying dto account, db) := by
      simp only [AuthSession.move, checked]
    rw [run_alone_cons read]
    by_cases right : config.verify account.user.passwordHash dto.password
    · have verified : (AuthSession.verifying dto account).move config.toAuthConfig draw db =
          some (.signing account, db.updateUser account.id User.attemptsCleared) := by
        simp only [AuthSession.move, AuthService.verifyPassword, right, if_true]
      rw [run_alone_cons verified]
      simp only [LoginCall.password, right, if_true, passPassword]
      have signing : (AuthSession.signing account).move config.toAuthConfig draw
          (db.updateUser account.id User.attemptsCleared) =
            some (AuthService.signAccessToken account (db.updateUser account.id
              User.attemptsCleared), db.updateUser account.id User.attemptsCleared) := rfl
      rw [run_alone_cons signing]
      unfold AuthService.signAccessToken
      split
      · rename_i missing
        rw [missing, run_alone_ended _ fun _ _ => rfl]
        rfl
      · rename_i now found
        rw [found]
        dsimp only
        split
        · rw [run_alone_ended _ fun _ _ => rfl]
          exact ⟨rfl, rfl⟩
        · rfl
    · have verified : (AuthSession.verifying dto account).move config.toAuthConfig draw db =
          some (.refused AuthService.invalidCredentials, db.updateUser account.id
            (User.failedAttempt account.user.failedLoginAttempts draw.stampedAt)) := by
        simp only [AuthSession.move, AuthService.verifyPassword, right]
        rfl
      rw [run_alone_cons verified, run_alone_ended _ fun _ _ => rfl]
      simp only [LoginCall.password, right]
      rfl

/-! ### Accounts -/

/-- **The accounts that the constraints of the database allow**: every account has a role, and no two
accounts of a company have the same e-mail. -/
structure Population where
  db : AccessDb
  roles : ∀ id user, db.users.find? id = some user →
    ∃ role, db.roles.find? user.roleId = some role
  emails : ∀ first second user other email, db.users.find? first = some user →
    db.users.find? second = some other → user.companyId = other.companyId →
    user.email = some email → other.email = some email → first = second

/-- **An account that presents itself**: it is active and not locked, and it types in what is its
own, on its own surface. -/
structure OwnLogin (config : InviteConfig) (draw : TokenDraw) (population : Population) where
  id : Nat
  account : Account
  call : LoginCall
  found : population.db.accountOf id = some account
  active : account.user.isActive = true
  unlocked : ∀ deadline ∈ account.user.lockedUntil, deadline ≤ draw.comparedAt
  surface : account.surface = call.surface
  identifier : call.names account.user = true
  password : config.verify account.user.passwordHash call.password = true

namespace OwnLogin

variable {config : InviteConfig} {draw : TokenDraw} {population : Population}

/-- **The login finds the account**: whichever row the lookup answers, the login is let in to the
account, or asked for its second factor. -/
def FindsAccount (login : OwnLogin config draw population) : Prop :=
  ∀ found, login.call.MayFind population.db found → ∃ answer,
    (login.call.signIn config draw found population.db).1 = .ok answer ∧ answer.sub = login.id

/-- Whether no other account matches what is typed in, and an account of the portal names an
applicant or a broker. -/
def Unmistakable (login : OwnLogin config draw population) : Prop :=
  (∀ id user, population.db.users.find? id = some user → login.call.asks user = true →
    id = login.id) ∧
  (login.call.surface = .portal →
    login.account.user.applicantId.isSome = true ∨ login.account.user.brokerId.isSome = true)

theorem asks_iff (login : OwnLogin config draw population) :
    login.call.asks login.account.user = true ↔ (login.call.surface = .portal →
      login.account.user.applicantId.isSome = true ∨
        login.account.user.brokerId.isSome = true) := by
  have names := login.identifier
  cases call : login.call with
  | staff dto =>
    rw [call] at names
    exact ⟨fun _ => nofun, fun _ => names⟩
  | portal dto =>
    rw [call] at names
    show (LoginCall.names (.portal dto) _ && _) = true ↔ _
    rw [names]
    cases login.account.user.applicantId <;> cases login.account.user.brokerId <;>
      simp [LoginCall.surface]

/-- **Which account a login finds.** An account that presents its own identifier and password on its
own surface is let in, whichever row the database answers, if and only if no other account matches
what is typed in, and an account of the portal names an applicant or a broker. -/
theorem findsAccount_iff (login : OwnLogin config draw population) :
    login.FindsAccount ↔ login.Unmistakable := by
  obtain ⟨_, present⟩ := accountOf_id login.found
  constructor
  · intro finds
    have only : ∀ id user, population.db.users.find? id = some user →
        login.call.asks user = true → id = login.id := by
      intro id user found asked
      obtain ⟨answer, answered, same⟩ := finds (some id) ⟨user, found, asked⟩
      exact (Option.some.inj (LoginCall.signIn_sub answered)).trans same
    refine ⟨only, login.asks_iff.mp ?_⟩
    -- the lookup has an answer, and that can only be the account itself
    obtain ⟨found, mayFind⟩ := login.call.exists_mayFind population.db
    obtain ⟨answer, answered, same⟩ := finds found mayFind
    rw [LoginCall.signIn_sub answered, same] at mayFind
    obtain ⟨user, userFound, asked⟩ := mayFind
    rw [present] at userFound
    cases userFound
    exact asked
  · rintro ⟨only, names⟩ found mayFind
    have asked := login.asks_iff.mpr names
    have own : found = some login.id := by
      cases found with
      | none => exact absurd asked (by simp [mayFind login.id _ present])
      | some id =>
        obtain ⟨user, userFound, asked⟩ := mayFind
        rw [only id user userFound asked]
    obtain ⟨answer, answered⟩ := LoginCall.signIn_of_own login.found
      (LoginCall.check_of_own login.active login.unlocked login.surface) login.password
    rw [own]
    refine ⟨answer, answered, ?_⟩
    exact (Option.some.inj (LoginCall.signIn_sub answered)).symm

end OwnLogin

/-! ### Two companies -/

def clerkOf (companyId roleId : Nat) (passwordHash : String) : User where
  companyId
  email := some "clerk@example.com"
  passwordHash
  name := "Clerk"
  roleId

def twoCompanies : Population where
  db :=
    { roles := Table.empty.createMany
        [{ companyId := 0, name := "Clerk", slug := "clerk" },
         { companyId := 1, name := "Clerk", slug := "clerk" }]
      users := Table.empty.createMany [clerkOf 0 0 "first", clerkOf 1 1 "second"] }
  roles := by
    intro id user found
    have member := Table.find?_eq_some.mp found
    simp only [Table.createMany, Table.create, Table.empty, List.nil_append, List.cons_append,
      List.mem_cons, Prod.mk.injEq, List.not_mem_nil, or_false] at member
    rcases member with ⟨_, rfl⟩ | ⟨_, rfl⟩
    · exact ⟨_, rfl⟩
    · exact ⟨_, rfl⟩
  emails := by
    intro first second user other email found otherFound company _ _
    have member := Table.find?_eq_some.mp found
    have otherMember := Table.find?_eq_some.mp otherFound
    simp only [Table.createMany, Table.create, Table.empty, List.nil_append, List.cons_append,
      List.mem_cons, Prod.mk.injEq, List.not_mem_nil, or_false] at member otherMember
    rcases member with ⟨rfl, rfl⟩ | ⟨rfl, rfl⟩ <;>
      rcases otherMember with ⟨rfl, rfl⟩ | ⟨rfl, rfl⟩ <;>
      first | rfl | cases company

def instantDraw : TokenDraw := ⟨"raw", 0, 0, 0, 0, 0⟩

def firstLogin : OwnLogin portalConfig instantDraw twoCompanies where
  id := 0
  account := ⟨0, clerkOf 0 0 "first", { companyId := 0, name := "Clerk", slug := "clerk" }, []⟩
  call := .staff ⟨"clerk@example.com", "first"⟩
  found := rfl
  active := rfl
  unlocked := nofun
  surface := rfl
  identifier := by decide
  password := by decide

def secondLogin : OwnLogin portalConfig instantDraw twoCompanies where
  id := 1
  account := ⟨1, clerkOf 1 1 "second", { companyId := 1, name := "Clerk", slug := "clerk" }, []⟩
  call := .staff ⟨"clerk@example.com", "second"⟩
  found := rfl
  active := rfl
  unlocked := nofun
  surface := rfl
  identifier := by decide
  password := by decide

/-- **One of the two is shut out**, whichever row the database answers: neither login finds its
account, and no row lets both in. -/
theorem equal_emails_shut_out :
    ¬firstLogin.FindsAccount ∧ ¬secondLogin.FindsAccount ∧
      ∀ found answer other,
        (firstLogin.call.signIn portalConfig instantDraw found twoCompanies.db).1 = .ok answer →
        (secondLogin.call.signIn portalConfig instantDraw found twoCompanies.db).1 = .ok other →
        ¬(answer.sub = firstLogin.id ∧ other.sub = secondLogin.id) := by
  have first : twoCompanies.db.users.find? 0 = some (clerkOf 0 0 "first") := rfl
  have second : twoCompanies.db.users.find? 1 = some (clerkOf 1 1 "second") := rfl
  refine ⟨fun finds => ?_, fun finds => ?_, ?_⟩
  · obtain ⟨answer, answered, same⟩ := finds (some 1) ⟨_, second, by decide⟩
    cases (Option.some.inj (LoginCall.signIn_sub answered)).trans same
  · obtain ⟨answer, answered, same⟩ := finds (some 0) ⟨_, first, by decide⟩
    cases (Option.some.inj (LoginCall.signIn_sub answered)).trans same
  · rintro found answer other answered otherAnswered ⟨isFirst, isSecond⟩
    have here := LoginCall.signIn_sub answered
    have there := LoginCall.signIn_sub otherAnswered
    rw [here, isFirst, isSecond] at there
    cases there

end OpenEstate
