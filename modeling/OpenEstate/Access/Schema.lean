/-
**The tables of users, roles and sessions.**

A user has one role of the company; a role has the permissions that `role_permissions` lists for it.
A refresh token belongs to a user and to a family, the chain of tokens that one login began.

`isSuperAdminRole` is the definition of the super admin's role: the seeded system role of that slug.
-/

import OpenEstate.Relational.Table
import OpenEstate.Relational.Transaction
import OpenEstate.Shared.ServiceError

namespace OpenEstate

open Relational

/-! ### Rows -/

structure Permission where
  key : String
  deriving DecidableEq

structure Role where
  companyId : Nat
  name : String
  slug : String
  isSystem : Bool := false
  isPortal : Bool := false
  permissions : List Nat := []
  deriving DecidableEq

/-- A user. The account of a customer or of a broker names the applicant or the broker. -/
structure User where
  companyId : Nat
  email : Option String
  passwordHash : String
  name : String
  phone : Option String := none
  roleId : Nat
  isActive : Bool := true
  forcePasswordChange : Bool := true
  managerId : Option Nat := none
  authzVersion : Nat := 0
  applicantId : Option Nat := none
  brokerId : Option Nat := none
  failedLoginAttempts : Nat := 0
  lockedUntil : Option Nat := none
  totpEnabled : Bool := false
  totpSecret : Option String := none
  recoveryCodes : List String := []
  failedTotpAttempts : Nat := 0
  totpLockedUntil : Option Nat := none
  deriving DecidableEq

/-- A refresh token, of which only the hash is stored. Instants are in milliseconds. -/
structure RefreshToken where
  userId : Nat
  tokenHash : String
  family : Nat
  isRevoked : Bool := false
  revokedAt : Option Nat := none
  expiresAt : Nat
  deriving DecidableEq

/-! ### The tables -/

structure AccessDb where
  permissions : Table Permission := .empty
  roles : Table Role := .empty
  users : Table User := .empty
  refreshTokens : Table RefreshToken := .empty

/-- What a statement locks: a row, or the refresh tokens of a user, by an advisory lock. -/
inductive AccessLock
  | role (id : Nat)
  | user (id : Nat)
  | refreshToken (id : Nat)
  | userTokens (userId : Nat)
  deriving DecidableEq

abbrev AccessTx := Tx AccessDb AccessLock ServiceError

/-! ### The super admin's role -/

def superAdminSlug : String := "super_admin"

def isSuperAdminRole (role : Role) : Bool :=
  role.isSystem && role.slug == superAdminSlug

namespace AccessDb

def role? (db : AccessDb) (companyId roleId : Nat) : Option Role :=
  (db.roles.find? roleId).filter fun role => role.companyId == companyId

def user? (db : AccessDb) (companyId userId : Nat) : Option User :=
  (db.users.find? userId).filter fun user => user.companyId == companyId

theorem role?_eq_some {db : AccessDb} {companyId roleId : Nat} {role : Role} :
    db.role? companyId roleId = some role ↔
      db.roles.find? roleId = some role ∧ role.companyId = companyId := by
  rw [role?, Option.filter_eq_some_iff, beq_iff_eq]

theorem role?_congr {db after : AccessDb} (same : after.roles = db.roles) (companyId roleId : Nat) :
    after.role? companyId roleId = db.role? companyId roleId := by
  rw [role?, role?, same]

theorem user?_eq_some {db : AccessDb} {companyId userId : Nat} {user : User} :
    db.user? companyId userId = some user ↔
      db.users.find? userId = some user ∧ user.companyId = companyId := by
  rw [user?, Option.filter_eq_some_iff, beq_iff_eq]

end AccessDb

def smallCompany : AccessDb where
  permissions := Table.empty.createMany
    [{ key := "admin.user.read" }, { key := "admin.user.update" }, { key := "admin.role.create" }]
  roles := Table.empty.createMany
    [{ companyId := 0, name := "Super admin", slug := superAdminSlug, isSystem := true,
       permissions := [0, 1, 2] },
     { companyId := 0, name := "Manager", slug := "manager", permissions := [0, 1] },
     { companyId := 0, name := "Clerk", slug := "clerk", permissions := [0] }]
  users := Table.empty.createMany
    [{ companyId := 0, email := some "owner", passwordHash := "", name := "Owner", roleId := 0 },
     { companyId := 0, email := some "manager", passwordHash := "", name := "Manager", roleId := 1 },
     { companyId := 0, email := some "clerk", passwordHash := "", name := "Clerk", roleId := 2 }]

end OpenEstate
