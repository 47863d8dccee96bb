import Sams.Auth.World

/-!
# The repositories of authentication

`ControlPlaneRepository`, `UserRepository` and the opening of a tenant's pool, as far as a login, a
redemption, a rotation and a password change use them. A statement is one atomic action, also where
it returns what it wrote; the pool of a tenant is opened under the tenant's lock, as one action.
-/

namespace Sams.Auth

open Programs Rows Interleaving

variable [Unicode] [Platform]

/-- One statement. -/
def stmt (f : World → World) : Task Unit := .once (exec .databaseError f)

/-- Read the tables. -/
def read {α : Type} (f : World → α) : Task α := .look fun s => f s.val

/-- `datetime.now(UTC)`. -/
def clock : Task Nat := read World.now

def drawNext : EStateM PyError State Nat := do
  let n ← query fun s => s.val.seq
  exec .databaseError fun w => { w with seq := w.seq + 1 }
  pure n

/-- Draw the next number. -/
def draw : Task Nat := .once drawNext

/-! ## Pools -/

/-- The tenants of `TENANT_DB_CONFIG`. -/
def configuredTenants : List String := ["tenant_a", "tenant_b", "tenant_c"]

namespace World

/-- A tenant that is not known yet is registered. -/
def register (w : World) (tenantId : String) : World :=
  if tenantId ∈ w.opened ∨ w.isRegistered tenantId ∨ tenantId ∈ configuredTenants then w
  else { w with tenants := w.tenants ++ [⟨tenantId⟩] }

/-- `CREATE SCHEMA IF NOT EXISTS`. -/
def createSchema (w : World) (tenantId : String) : World :=
  if w.schemas.any fun t => t.tenantId = tenantId then w
  else { w with schemas := w.schemas ++ [⟨tenantId, [], 1⟩] }

/-- Rewrite the schema of a tenant. -/
def updateSchema (w : World) (tenantId : String) (f : SchemaRow → SchemaRow) : World :=
  { w with schemas := updateWhere (fun t => t.tenantId = tenantId) f w.schemas }

/-- The super admins that have no row among these users. -/
def missingSuperAdmins (w : World) (users : List UserRow) : List SuperAdminRow :=
  w.superAdmins.filter fun a => ¬users.any fun u => CiEq u.email a.email

/-- The rows that super admins are given in a tenant. -/
def mirror : List SuperAdminRow → Nat → List UserRow
  | [], _ => []
  | a :: rest, id =>
    { id := id, email := a.email, role := "super_admin", roles := [], permissions := []
      passwordHash := a.passwordHash } :: mirror rest (id + 1)

/-- The rows that are missing in a schema. -/
def mirrors (w : World) (t : SchemaRow) : List UserRow :=
  mirror (w.missingSuperAdmins t.users) t.nextUserId

/-- `INSERT INTO users … SELECT … FROM public.super_admins … WHERE NOT EXISTS …`. -/
def seedSuperAdmins (w : World) (tenantId : String) : World :=
  w.updateSchema tenantId fun t =>
    { t with
      users := t.users ++ w.mirrors t
      nextUserId := t.nextUserId + (w.mirrors t).length }

/-- `_initialize_tenant_tables`, the first time the process opens the pool. -/
def initializeTables (w : World) (tenantId : String) : World :=
  if tenantId ∈ w.opened then w
  else
    let w := (w.createSchema tenantId).seedSuperAdmins tenantId
    { w with opened := w.opened ++ [tenantId] }

end World

def openPool (tenantId : String) : EStateM PyError State Unit := do
  exec .databaseError fun w => w.register tenantId
  let reachable ← query fun s => s.val.reachable tenantId
  raiseIf (reachable = false) .databaseError
  exec .databaseError fun w => w.initializeTables tenantId

/-- `get_db_pool`. -/
def getDbPool (tenantId : String) : Task Unit := .once (openPool tenantId)

/-! ## Accounts -/

namespace ControlPlaneRepository

def getSuperAdminByEmail (email : String) : Task (Option SuperAdminRow) :=
  read fun w => w.superAdminByEmail email

def getParentByEmail (email : String) : Task (Option ParentRow) :=
  read fun w => w.parentByEmail email

def getTenantsForEmail (email : String) : Task (List MembershipRow) :=
  read fun w => w.tenantsForEmail email

def getTenantsForParent (parentId : Nat) : Task (List String) :=
  read fun w => w.tenantsForParent parentId

def checkParentTenantLink (parentId : Nat) (tenantId : String) : Task Bool :=
  read fun w => w.linked parentId tenantId

def getAllTenants : Task (List TenantRow) := read World.tenants

def updateSuperAdminPassword (id : Nat) (hash : String) : Task Unit :=
  stmt fun w =>
    { w with
      superAdmins := updateWhere (fun a => a.id = id) (fun a => { a with passwordHash := hash })
        w.superAdmins }

def updateParentPassword (id : Nat) (hash : String) : Task Unit :=
  stmt fun w =>
    { w with
      parents := updateWhere (fun p => p.id = id) (fun p => { p with passwordHash := hash })
        w.parents }

/-! ## Identities and memberships -/

def getIdentityById (id : Nat) : Task (Option IdentityRow) :=
  read fun w => w.identities.find? fun i => i.id = id

end ControlPlaneRepository

namespace World

/-- `INSERT INTO identities … ON CONFLICT (email) DO UPDATE SET email = EXCLUDED.email`. -/
def upsertIdentity (w : World) (email : String) : World :=
  match w.identityByEmail email with
  | some _ =>
    { w with
      identities := updateWhere (fun i => CiEq i.email email) (fun i => { i with email := email })
        w.identities }
  | none => { w with identities := w.identities ++ [⟨w.seq, email⟩], seq := w.seq + 1 }

/-- `INSERT INTO user_tenant_map … ON CONFLICT (email, tenant_id) DO UPDATE …`. -/
def upsertMembership (w : World) (identityId : Nat) (email tenantId role : String) : World :=
  if w.userTenantMap.any fun m => CiEq m.email email ∧ m.tenantId = tenantId then
    { w with
      userTenantMap := updateWhere (fun m => CiEq m.email email ∧ m.tenantId = tenantId)
        (fun m => { m with role := role, updatedAt := w.now }) w.userTenantMap }
  else
    { w with
      userTenantMap := w.userTenantMap ++ [
        { identityId := identityId, email := email, tenantId := tenantId, role := role
          status := .active, updatedAt := w.now, lastActiveAt := none, isDefault := false }] }

/-- `invalidate_membership_cache`: no email clears the cache. -/
def invalidate (w : World) (email : String) : World :=
  { w with
    membershipCache :=
      if email = "" then [] else w.membershipCache.filter fun e => e.email ≠ normalize email }

end World

namespace ControlPlaneRepository

def getOrCreateIdentity (email : String) : Task IdentityRow :=
  .once do
    exec .databaseError fun w => w.upsertIdentity (normalize email)
    let row ← query fun s => s.val.identityByEmail (normalize email)
    match row with
    | some row => pure row
    | none => throw .databaseError

def upsertUserTenantMap (email tenantId role : String) : Task Unit := do
  let identity ← getOrCreateIdentity email
  stmt fun w => w.upsertMembership identity.id (normalize email) tenantId role
  stmt fun w => w.invalidate email

def getMembership (identityId : Nat) (tenantId : String) : Task (Option MembershipRow) :=
  read fun w => w.userTenantMap.find? fun m => m.identityId = identityId ∧ m.tenantId = tenantId

def touchMembershipLastActive (identityId : Nat) (tenantId : String) : Task Unit :=
  stmt fun w =>
    { w with
      userTenantMap := updateWhere (fun m => m.identityId = identityId ∧ m.tenantId = tenantId)
        (fun m => { m with lastActiveAt := some w.now }) w.userTenantMap }

/-! ## Selection challenges -/

def createSelectionChallenge (tokenHash : String) (identityId : Nat) (matchedTenants : List String)
    (expiresAt : Nat) : Task Unit :=
  stmt fun w =>
    { w with
      selectionChallenges := w.selectionChallenges ++ [
        { tokenHash := tokenHash, identityId := identityId, matchedTenants := matchedTenants
          consumedAt := none, expiresAt := expiresAt }] }

/-- The condition of the consuming `UPDATE`. -/
def redeemable (w : World) (tokenHash : String) (c : ChallengeRow) : Bool :=
  c.tokenHash = tokenHash ∧ c.consumedAt = none ∧ w.now < c.expiresAt

/-- `UPDATE … SET consumed_at … RETURNING`: nothing when no challenge is left to consume. -/
def redeemSelectionChallenge (tokenHash : String) : Task (Option ChallengeRow) :=
  .once do
    let row ← query fun s => s.val.selectionChallenges.find? (redeemable s.val tokenHash)
    exec .databaseError fun w =>
      { w with
        selectionChallenges := updateWhere (redeemable w tokenHash)
          (fun c => { c with consumedAt := some w.now }) w.selectionChallenges }
    pure row

end ControlPlaneRepository

/-! ## Refresh tokens -/

namespace World

def replaceToken (w : World) (oldId newId : Nat) : World :=
  { w with
    refreshTokens := updateWhere (fun r => r.id = oldId)
      (fun r => { r with revokedAt := some w.now, replacedBy := some newId }) w.refreshTokens }

def revokeFamily (w : World) (familyId : Nat) : World :=
  { w with
    refreshTokens := updateWhere (fun r => r.familyId = familyId ∧ r.revokedAt = none)
      (fun r => { r with revokedAt := some w.now }) w.refreshTokens }

end World

namespace ControlPlaneRepository

def createRefreshToken (tokenHash : String) (identityId : Nat) (tenantId role : String)
    (familyId expiresAt : Nat) : Task Unit :=
  stmt fun w =>
    { w with
      refreshTokens := w.refreshTokens ++ [
        { id := w.seq, tokenHash := tokenHash, identityId := identityId, tenantId := tenantId
          role := role, familyId := familyId, revokedAt := none, replacedBy := none
          expiresAt := expiresAt }]
      seq := w.seq + 1 }

def getRefreshToken (tokenHash : String) : Task (Option RefreshTokenRow) :=
  read fun w => w.refreshTokens.find? fun r => r.tokenHash = tokenHash

/-- The `UPDATE` puts no condition on `revoked_at`. -/
def rotateRefreshToken (oldId newId : Nat) : Task Unit :=
  .marked (.revoke oldId) (exec .databaseError fun w => w.replaceToken oldId newId)

def revokeRefreshTokenFamily (familyId : Nat) : Task Unit := stmt fun w => w.revokeFamily familyId

end ControlPlaneRepository

/-! ## Users of a tenant -/

namespace UserRepository

def getUserByEmail (tenantId email : String) : Task (Option UserRow) :=
  read fun w => w.userByEmail tenantId email

/-- The roles that `create_user` accepts. -/
def validRoles : List String :=
  ["super_admin", "school_admin", "admin", "teacher", "parent", "student", "manager",
   "event_teacher", "pending"]

/-- A row with the next identifier of the tenant. -/
def withUser (email hash role : String) (t : SchemaRow) : SchemaRow :=
  { t with
    users := t.users ++ [
      { id := t.nextUserId, email := email, role := role, roles := [], permissions := []
        passwordHash := hash }]
    nextUserId := t.nextUserId + 1 }

/-- `INSERT INTO users …`; the role check comes before the unique email. -/
def insertUser (tenantId email hash role : String) : Task Nat :=
  .once do
    let id ← query fun s => s.val.nextUserId tenantId
    exec (if role ∈ School.userRoles then .valueError "Email already registered"
        else .databaseError) fun w => w.updateSchema tenantId (withUser email hash role)
    pure id

def createUser (tenantId email hash role : String) : Task Nat := do
  .failIf (role ∉ validRoles) (.valueError s!"Invalid tenant user role: {role}")
  insertUser tenantId (normalize email) hash role

def updateUserPasswordHash (tenantId : String) (id : Nat) (hash : String) : Task Unit :=
  stmt fun w => w.updateSchema tenantId fun t =>
    { t with
      users := updateWhere (fun u => u.id = id) (fun u => { u with passwordHash := hash }) t.users }

end UserRepository

end Sams.Auth
