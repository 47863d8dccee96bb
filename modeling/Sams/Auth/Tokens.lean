import Sams.Auth.Repository

/-!
# Sessions and refresh tokens

`create_access_token`, `issue_refresh_token`, `_resolve_local_account` and `rotate_refresh_token` of
`AuthService`. An access token is the claims that are signed.
-/

namespace Sams.Auth

open Programs Rows Interleaving

variable [Unicode] [Platform]

/-- The claims of an access token. -/
structure AccessToken where
  sub : String
  tenantId : String
  role : String
  roles : List String
  email : String
  exp : Nat
  identityId : Option Nat
  deriving DecidableEq, Repr

/-- What a login or a rotation answers. -/
structure Session where
  accessToken : AccessToken
  refreshToken : String
  deriving DecidableEq, Repr

/-- The tenant-local user a token is for, and the roles baked into it. -/
structure LocalAccount where
  sub : Nat
  role : String
  roles : List String
  deriving DecidableEq, Repr

/-- `dict.fromkeys` of the role, the roles and the permissions of a user. -/
def UserRow.allRoles (u : UserRow) : List String :=
  ((if u.role ≠ "" then [u.role] else []) ++ u.roles ++ u.permissions).eraseDups

namespace AuthService

open ControlPlaneRepository UserRepository

/-- `role` alone when no roles are given. -/
def rolesOr (roles : List String) (role : String) : List String :=
  if roles ≠ [] then roles else if role ≠ "" then [role] else []

def createAccessToken (userId : Nat) (tenantId role email : String) (roles : List String)
    (identityId : Option Nat) : Task AccessToken := do
  let now ← clock
  pure
    { sub := toString userId, tenantId := tenantId, role := role, roles := rolesOr roles role
      email := email, exp := now + Platform.jwtExpirationMinutes * 60, identityId := identityId }

/-- `_new_opaque_token`. -/
def newOpaqueToken : Task String := do
  let n ← draw
  pure (Platform.token n)

/-- Now, and `REFRESH_TOKEN_EXPIRATION_DAYS` more. -/
def refreshExpiry : Task Nat := do
  let now ← clock
  pure (now + Platform.refreshTokenExpirationDays * 86400)

def issueRefreshToken (identityId : Nat) (tenantId role : String) : Task String := do
  let raw ← newOpaqueToken
  let familyId ← draw
  let expiresAt ← refreshExpiry
  createRefreshToken (Platform.hashToken raw) identityId tenantId role familyId expiresAt
  pure raw

def accountGone : PyError := .valueError "Account no longer exists"

def resolveSuperAdmin (email : String) : Task LocalAccount := do
  let superAdmin ← getSuperAdminByEmail email
  match superAdmin with
  | none => .fail accountGone
  | some a => pure ⟨a.id, "super_admin", ["super_admin"]⟩

/-- A parent stays one; everyone else gets the role of the tenant's row. -/
def accountOf (user : UserRow) (role : String) : LocalAccount :=
  if role = "parent" ∧ user.role = "parent" then ⟨user.id, "parent", ["parent"]⟩
  else ⟨user.id, user.role, user.allRoles⟩

def resolveTenantUser (email tenantId role : String) : Task LocalAccount := do
  getDbPool tenantId
  let user ← getUserByEmail tenantId email
  match user with
  | none => .fail accountGone
  | some user => pure (accountOf user role)

/-- `_resolve_local_account`. -/
def resolveLocalAccount (identityId : Nat) (tenantId role : String) : Task LocalAccount := do
  let identity ← getIdentityById identityId
  match identity with
  | none => .fail accountGone
  | some identity =>
    if tenantId = "" ∨ role = "super_admin" then resolveSuperAdmin identity.email
    else resolveTenantUser identity.email tenantId role

def invalidRefreshToken : PyError := .valueError "Invalid refresh token"

/-- A revoked token was presented: the reuse signal. -/
def rejectReuse (row : RefreshTokenRow) : Task Session := do
  revokeRefreshTokenFamily row.familyId
  .fail invalidRefreshToken

/-- `replaced_by` is read back from the row that was inserted. -/
def supersede (row : RefreshTokenRow) (newRaw : String) : Task Unit := do
  let newRow ← getRefreshToken (Platform.hashToken newRaw)
  match newRow with
  | none => .fail (.typeError "\x27NoneType\x27 object is not subscriptable")
  | some newRow => ControlPlaneRepository.rotateRefreshToken row.id newRow.id

/-- The successor of a token that is neither revoked nor expired. The access token carries no
email. -/
def rotateRow (row : RefreshTokenRow) : Task Session := do
  let now ← clock
  .failIf (row.expiresAt ≤ now) (.valueError "Refresh token expired")
  let account ← resolveLocalAccount row.identityId row.tenantId row.role
  let newRaw ← newOpaqueToken
  let expiresAt ← refreshExpiry
  createRefreshToken (Platform.hashToken newRaw) row.identityId row.tenantId account.role
    row.familyId expiresAt
  supersede row newRaw
  let accessToken ←
    createAccessToken account.sub row.tenantId account.role "" account.roles (some row.identityId)
  pure ⟨accessToken, newRaw⟩

def rotateRefreshToken (rawToken : String) : Task Session := do
  let row ← getRefreshToken (Platform.hashToken rawToken)
  match row with
  | none => .fail invalidRefreshToken
  | some row => if row.revokedAt.isSome then rejectReuse row else rotateRow row

end AuthService

end Sams.Auth
