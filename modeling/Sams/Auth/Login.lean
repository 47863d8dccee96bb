import Sams.Auth.Tokens

/-!
# Logins

`login_user` with what it calls, `login_redeem` and `change_password` of `AuthService`. The
synchronisation with the single sign-on has no part in either. The candidates of a login are fetched
in the order in which the set of tenants is listed.
-/

namespace Sams.Auth

open Programs Rows Interleaving

variable [Unicode] [Platform]

/-- The account behind a candidate. -/
inductive Record where
  | superAdmin (a : SuperAdminRow)
  | parent (p : ParentRow)
  | tenantUser (u : UserRow)
  deriving DecidableEq, Repr

/-- One tenant to log in to, with the account whose password counts there. -/
structure Candidate where
  tenantId : String
  record : Record
  deriving DecidableEq, Repr

namespace Candidate

def hash (c : Candidate) : String :=
  match c.record with
  | .superAdmin a => a.passwordHash
  | .parent p => p.passwordHash
  | .tenantUser u => u.passwordHash

/-- The role that is shown for it. -/
def role (c : Candidate) : String :=
  match c.record with
  | .superAdmin _ => "super_admin"
  | .parent _ => "parent"
  | .tenantUser u => u.role

/-- `verify_password` against its hash. -/
def accepts (c : Candidate) (password : String) : Bool := Platform.verifyPassword password c.hash

end Candidate

/-- A school to choose. -/
structure Choice where
  tenantId : String
  role : String
  deriving DecidableEq, Repr

inductive LoginResult where
  | session (session : Session)
  | selectTenant (selectionToken : String) (expiresIn : Nat) (choices : List Choice)
  deriving DecidableEq, Repr

/-- What `_enumerate_login_tenants` returns. -/
structure LoginTenants where
  tenantIds : List String
  parent : Option ParentRow
  superAdmin : Option SuperAdminRow
  deriving DecidableEq, Repr

namespace AuthService

open ControlPlaneRepository UserRepository

def invalidLogin : PyError := .valueError "Invalid email or password"

/-! ## Candidates -/

def linkedTenants : Option ParentRow → Task (List String)
  | none => pure []
  | some parent => getTenantsForParent parent.id

/-- The set of tenants, with `""` for a super admin. -/
def loginTenantIds (memberships : List MembershipRow) (links : List String)
    (superAdmin : Option SuperAdminRow) : List String :=
  (((memberships.map MembershipRow.tenantId).filter (· ≠ "")) ++ links ++
    if superAdmin.isSome then [""] else []).dedup

/-- `_enumerate_login_tenants`. -/
def enumerateLoginTenants (email : String) : Task LoginTenants := do
  let superAdmin ← getSuperAdminByEmail email
  let memberships ← getTenantsForEmail email
  let parent ← getParentByEmail email
  let links ← linkedTenants parent
  pure ⟨loginTenantIds memberships links superAdmin, parent, superAdmin⟩

/-- A user counts when it has a hash. -/
def userCandidate (tenantId : String) (user : Option UserRow) : Option Candidate :=
  (user.filter fun u => u.passwordHash ≠ "").map fun u => ⟨tenantId, .tenantUser u⟩

def fetchUnlessBroken (email tenantId : String) : Option Unit → Task (Option Candidate)
  | none => pure none
  | some _ => do
    let user ← getUserByEmail tenantId email
    pure (userCandidate tenantId user)

/-- The user of the tenant's own table; a pool that does not open has none. -/
def fetchTenantUser (email tenantId : String) : Task (Option Candidate) := do
  let pool ← .once (attempt (openPool tenantId))
  fetchUnlessBroken email tenantId pool

/-- The parent counts where it is linked. -/
def fetchLinked (email tenantId : String) (parent : ParentRow) (isLinked : Bool) :
    Task (Option Candidate) :=
  if isLinked then pure (some ⟨tenantId, .parent parent⟩) else fetchTenantUser email tenantId

def fetchParentOrUser (email tenantId : String) : Option ParentRow → Task (Option Candidate)
  | none => fetchTenantUser email tenantId
  | some parent => do
    let isLinked ← checkParentTenantLink parent.id tenantId
    fetchLinked email tenantId parent isLinked

/-- `_fetch_login_candidate`. -/
def fetchLoginCandidate (email tenantId : String) (parent : Option ParentRow)
    (superAdmin : Option SuperAdminRow) : Task (Option Candidate) :=
  match superAdmin with
  | none => fetchParentOrUser email tenantId parent
  | some a =>
    if tenantId = "" then pure (some ⟨"", .superAdmin a⟩)
    else fetchParentOrUser email tenantId parent

/-- The first tenant in whose table the email has a password. -/
def scanTenants (email : String) : List TenantRow → Task (Option Candidate)
  | [] => pure none
  | t :: ts =>
    if t.tenantId = "" then scanTenants email ts
    else do
      let candidate ← fetchTenantUser email t.tenantId
      match candidate with
      | none => scanTenants email ts
      | some candidate => pure (some candidate)

/-- `_legacy_scan_for_candidate`. -/
def legacyScanForCandidate (email : String) : Task (Option Candidate) := do
  let tenants ← getAllTenants
  scanTenants email tenants

/-! ## Passwords -/

def hashPassword (password : String) : Task String := do
  let salt ← draw
  pure (Platform.hashPassword salt password)

def paddingFloor : Nat := 3

/-- `_verify_candidates_padded`. -/
def verifyCandidatesPadded (candidates : List Candidate) (password : String) :
    Task (List Candidate) := do
  let dummyHash ← hashPassword "padding-comparison-not-a-real-account"
  let results := candidates.map (fun c => c.accepts password) ++
    List.replicate (paddingFloor - candidates.length) (Platform.verifyPassword password dummyHash)
  pure (((candidates.zip (results.take candidates.length)).filter fun r => r.2).map fun r => r.1)

/-! ## Sessions -/

def issueSession (userId : Nat) (tenantId role email : String) (roles : List String)
    (identityId : Nat) : Task Session := do
  let accessToken ← createAccessToken userId tenantId role email roles (some identityId)
  let refreshToken ← issueRefreshToken identityId tenantId role
  pure ⟨accessToken, refreshToken⟩

/-- The parent's row in the tenant, created at the first login. -/
def ensureLocalParent (email tenantId : String) (parent : ParentRow) :
    Option UserRow → Task Nat
  | some user => pure user.id
  | none => createUser tenantId email parent.passwordHash "parent"

def completeParent (email tenantId : String) (parent : ParentRow) (identityId : Nat) :
    Task Session := do
  let isLinked ← checkParentTenantLink parent.id tenantId
  .failIf (isLinked = false) invalidLogin
  getDbPool tenantId
  let localUser ← getUserByEmail tenantId email
  let localUserId ← ensureLocalParent email tenantId parent localUser
  upsertUserTenantMap email tenantId "parent"
  issueSession localUserId tenantId "parent" email [] identityId

def completeTenantUser (email tenantId : String) (user : UserRow) (identityId : Nat) :
    Task Session := do
  upsertUserTenantMap email tenantId user.role
  issueSession user.id tenantId user.role email user.allRoles identityId

/-- `_complete_login`. -/
def completeLogin (chosen : Candidate) (email : String) : Task Session := do
  let identity ← getOrCreateIdentity email
  match chosen.record with
  | .superAdmin a => issueSession a.id "" "super_admin" email [] identity.id
  | .parent parent => completeParent email chosen.tenantId parent identity.id
  | .tenantUser user => completeTenantUser email chosen.tenantId user identity.id

/-- `_issue_login_selection_challenge`. -/
def issueLoginSelectionChallenge (email : String) (matched : List Candidate) :
    Task LoginResult := do
  let identity ← getOrCreateIdentity email
  let raw ← newOpaqueToken
  let now ← clock
  createSelectionChallenge (Platform.hashToken raw) identity.id (matched.map Candidate.tenantId)
    (now + 120)
  pure (.selectTenant raw 120 (matched.map fun c => ⟨c.tenantId, c.role⟩))

/-! ## Logging in -/

/-- The candidate of the school that was named, or of the scan, if the password is its. -/
def loginCandidate (email password : String) : Option Candidate → Task LoginResult
  | none => .fail invalidLogin
  | some chosen => do
    .failIf (chosen.accepts password = false) invalidLogin
    let session ← completeLogin chosen email
    pure (.session session)

def loginNamed (email password tenantId : String) (found : LoginTenants) : Task LoginResult := do
  .failIf (tenantId ∉ found.tenantIds) invalidLogin
  let chosen ← fetchLoginCandidate email tenantId found.parent found.superAdmin
  loginCandidate email password chosen

def notAssociated : PyError :=
  .valueError ("This account is not associated with a school. Ask an " ++
    "administrator to invite you to one.")

def loginScanned (email password : String) : Option Candidate → Task LoginResult
  | none => .fail notAssociated
  | some candidate => loginCandidate email password (some candidate)

/-- One match is a session, several are a choice. -/
def loginMatched (email : String) : List Candidate → Task LoginResult
  | [] => .fail invalidLogin
  | [chosen] => do
    let session ← completeLogin chosen email
    pure (.session session)
  | matched => issueLoginSelectionChallenge email matched

def loginEverywhere (email password : String) (found : LoginTenants) : Task LoginResult := do
  let fetched ← ((Platform.listed found.tenantIds).take 8).mapM fun t =>
    fetchLoginCandidate email t found.parent found.superAdmin
  let matched ← verifyCandidatesPadded (fetched.filterMap id) password
  loginMatched email matched

def loginUnnamed (email password : String) (found : LoginTenants) : Task LoginResult :=
  if found.tenantIds = [] then do
    let fallback ← legacyScanForCandidate email
    loginScanned email password fallback
  else loginEverywhere email password found

def loginUser (email password : String) (tenantId : Option String) : Task LoginResult := do
  let found ← enumerateLoginTenants (normalize email)
  match Text.nonEmpty tenantId with
  | some t => loginNamed (normalize email) password t found
  | none => loginUnnamed (normalize email) password found

/-! ## Redeeming a selection -/

def invalidSelection : PyError := .valueError "Invalid or expired selection token"

/-- A `ValueError` becomes the generic one. -/
def asInvalidSelection : PyError → PyError
  | .valueError _ => invalidSelection
  | e => e

/-- The role of the membership, as a hint. -/
def hintRole (identityId : Nat) (tenantId : String) : Task String :=
  if tenantId = "" then pure "super_admin"
  else do
    let membership ← getMembership identityId tenantId
    pure ((membership.map MembershipRow.role).getD "")

def selectedAccount (identityId : Nat) (tenantId : String) : Task LocalAccount := do
  let role ← hintRole identityId tenantId
  resolveLocalAccount identityId tenantId role

/-- The membership of a tenant was used. -/
def touchMembership (identityId : Nat) (tenantId : String) : Task Unit :=
  if tenantId = "" then pure () else touchMembershipLastActive identityId tenantId

def redeemSession (identityId : Nat) (tenantId : String) (account : LocalAccount) :
    Option IdentityRow → Task Session
  | none => .fail (.typeError "\x27NoneType\x27 object is not subscriptable")
  | some identity => do
    let accessToken ← createAccessToken account.sub tenantId account.role identity.email
      account.roles (some identityId)
    touchMembership identityId tenantId
    let refreshToken ← issueRefreshToken identityId tenantId account.role
    pure ⟨accessToken, refreshToken⟩

/-- What follows the consuming `UPDATE`. -/
def redeemRow (tenantId : String) : Option ChallengeRow → Task Session
  | none => .fail invalidSelection
  | some row => do
    .failIf (tenantId ∉ row.matchedTenants) invalidSelection
    let account ← (selectedAccount row.identityId tenantId).wrap asInvalidSelection
    let identity ← getIdentityById row.identityId
    redeemSession row.identityId tenantId account identity

def loginRedeem (selectionToken tenantId : String) : Task Session := do
  let row ← redeemSelectionChallenge (Platform.hashToken selectionToken)
  redeemRow tenantId row

/-! ## Changing a password -/

def accountNotFound : PyError := .valueError "Account not found"

/-- The hash of an account whose password is managed by single sign-on. -/
def managedPlaceholders : List String := ["managed", "keycloak_managed"]

/-- The current password is the account's own. -/
def checkCurrent (storedHash currentPassword : String) : Task Unit := do
  .failIf (storedHash ∈ managedPlaceholders) (.permissionError
    ("This account\x27s password is managed by single sign-on and cannot " ++ "be changed here."))
  .failIf (Platform.verifyPassword currentPassword storedHash = false)
    (.valueError "Current password is incorrect")

def changeSuperAdminPassword (currentPassword newPassword : String) :
    Option SuperAdminRow → Task Unit
  | none => .fail accountNotFound
  | some record => do
    checkCurrent record.passwordHash currentPassword
    let newHash ← hashPassword newPassword
    updateSuperAdminPassword record.id newHash

/-- The hash of the tenant's row, if there is one. -/
def updateLocalUser (tenantId newHash : String) : Option UserRow → Task Unit
  | none => pure ()
  | some user => updateUserPasswordHash tenantId user.id newHash

/-- The tenant-local mirror of a parent. -/
def updateMirror (email newHash : String) : Option String → Task Unit
  | none => pure ()
  | some tenantId => do
    getDbPool tenantId
    let localUser ← getUserByEmail tenantId email
    updateLocalUser tenantId newHash localUser

def changeParentPassword (email : String) (tenantId : Option String)
    (currentPassword newPassword : String) : Option ParentRow → Task Unit
  | none => .fail accountNotFound
  | some record => do
    checkCurrent record.passwordHash currentPassword
    let newHash ← hashPassword newPassword
    updateParentPassword record.id newHash
    updateMirror email newHash (Text.nonEmpty tenantId)

def changeUserPassword (tenantId currentPassword newPassword : String) :
    Option UserRow → Task Unit
  | none => .fail accountNotFound
  | some user => do
    checkCurrent user.passwordHash currentPassword
    let newHash ← hashPassword newPassword
    updateUserPasswordHash tenantId user.id newHash

def changeTenantPassword (email currentPassword newPassword : String) :
    Option String → Task Unit
  | none => .fail accountNotFound
  | some tenantId => do
    getDbPool tenantId
    let user ← getUserByEmail tenantId email
    changeUserPassword tenantId currentPassword newPassword user

/-- `change_password`, without the flag of the single sign-on. -/
def changePassword (email role : String) (tenantId : Option String)
    (currentPassword newPassword : String) : Task Unit := do
  .failIf (newPassword = currentPassword)
    (.valueError "New password must be different from the current password")
  if role = "super_admin" then
    let record ← getSuperAdminByEmail email
    changeSuperAdminPassword currentPassword newPassword record
  else if role = "parent" then
    let record ← getParentByEmail email
    changeParentPassword email tenantId currentPassword newPassword record
  else changeTenantPassword email currentPassword newPassword (Text.nonEmpty tenantId)

end AuthService

/-! ## Requests -/

/-- The requests of the service. Time passes by `tick`. -/
inductive Request where
  | login (email password : String) (tenantId : Option String)
  | redeem (selectionToken tenantId : String)
  | rotate (refreshToken : String)
  | issue (identityId : Nat) (tenantId role : String)
  | changePassword (email role : String) (tenantId : Option String)
      (currentPassword newPassword : String)
  | tick (seconds : Nat)
  deriving DecidableEq, Repr

inductive Response where
  | login (result : LoginResult)
  | session (session : Session)
  | issued (refreshToken : String)
  | done
  deriving DecidableEq, Repr

open AuthService in
def Request.task : Request → Task Response
  | login email password tenantId => Response.login <$> loginUser email password tenantId
  | redeem selectionToken tenantId => Response.session <$> loginRedeem selectionToken tenantId
  | rotate refreshToken => Response.session <$> rotateRefreshToken refreshToken
  | issue identityId tenantId role =>
    Response.issued <$> issueRefreshToken identityId tenantId role
  | changePassword email role tenantId currentPassword newPassword =>
    (fun _ => Response.done) <$>
      AuthService.changePassword email role tenantId currentPassword newPassword
  | tick seconds => (fun _ => Response.done) <$> stmt fun w => { w with now := w.now + seconds }

end Sams.Auth
