import Sams.Auth.Claims

/-!
# The user of a request

`get_current_user`: from a bearer token and the `X-Tenant-ID` of a request to the user it is
handled for. The steps are those of the source. What a step reads and decides is a function of
the tables (`World.lastResort`, `withUserRow`, …); a write that is tried and whose failure is
logged is an `attempt`.

The control plane answers; a tenant's pool may not. A profile row that goes with a new user and the
audit record of a cross-tenant access are left out.
-/

namespace Sams.Auth

open Programs Rows Interleaving Authz ControlPlaneRepository

/-- Code that runs by itself. -/
abbrev Prog [Unicode] (α : Type) := EStateM PyError State α

/-- What a request carries. -/
structure HttpRequest where
  credentials : Option Credentials
  xTenantId : Option String := none
  tenantIdParam : Option String := none
  deriving DecidableEq, Repr

/-- What is known of the caller before a school is chosen. -/
structure Caller where
  email : String
  isKeycloak : Bool
  isSuperAdmin : Bool
  orgAmbiguous : Bool
  memberships : List Membership
  deriving DecidableEq, Repr

/-- What is still being resolved. An empty tenant is a missing one. -/
structure Resolution where
  userId : String
  role : String
  extracted : List String
  tenantId : String
  deriving DecidableEq, Repr

/-- The school that the request names. -/
def HttpRequest.selection (r : HttpRequest) : Option String :=
  (Text.nonEmpty r.xTenantId).or (Text.nonEmpty r.tenantIdParam)

namespace Resolution

variable (r : Resolution)

/-- The role was not established by the token. -/
def roleOpen : Bool := r.role = "" ∨ r.role ∈ ["student", "pending"]

/-- Take on a role that the control plane knows. -/
def takeRole (role : String) : Resolution :=
  { r with role := role, extracted := (role :: r.extracted) ++ permissionsOf role }

end Resolution

/-! ## The tables -/

section Tables

variable [Unicode]

namespace World

variable (w : World)

/-- `UPPER(email) = UPPER($1)` on `super_admins`. -/
def isSuperAdminEmail (email : String) : Bool := w.superAdmins.any fun a => UpperEq a.email email

/-- Every school the email is a member of, a parent's links among them. -/
def verifiedMemberships (email : String) : List Membership :=
  let own := (w.tenantsForEmail email).map fun m => ⟨m.tenantId, m.role⟩
  let linked := match w.parentByEmail (normalize email) with
    | none => []
    | some p => w.tenantsForParent p.id
  linked.foldl
    (fun ms t => if ms.any fun m => m.tenantId = t then ms else ms ++ [⟨t, "parent"⟩]) own

/-- What the cache holds for an email, if it is not too old. -/
def cachedMemberships (email : String) : Option (List Membership) :=
  (w.membershipCache.find? fun e => e.email = normalize email).bind fun e =>
    if w.now - e.time < 30 then some e.memberships else none

/-- `_MEMBERSHIP_CACHE[norm_email] = (now, memberships)`. -/
def cacheMemberships (email : String) (memberships : List Membership) : World :=
  { w with
    membershipCache := (w.membershipCache.filter fun e => e.email ≠ normalize email) ++
      [⟨normalize email, w.now, memberships⟩] }

/-- `ORDER BY created_at DESC LIMIT 1`, over the invitations of an email. -/
def newestUserInvitation (email : String) : Option UserInvitationRow :=
  ((w.userInvitations.filter fun i => UpperEq i.email email).insertionSort fun i j =>
    j.createdAt ≤ i.createdAt).head?

def newestInvitation (email : String) : Option InvitationRow :=
  ((w.invitations.filter fun i => i.targetEmail.any fun e => UpperEq e email).insertionSort
    fun i j => j.createdAt ≤ i.createdAt).head?

/-- The school and the role of the newest invitation. -/
def invitedTo (email : String) : Option Membership :=
  match w.newestUserInvitation email with
  | some i => some ⟨i.tenantId, i.role⟩
  | none => (w.newestInvitation email).map fun i => ⟨i.tenantId, i.role⟩

/-- The newest membership, and its role where the token gave none. -/
def mappedTo (email : String) (r : Resolution) : Resolution :=
  match (w.tenantsForEmail email).head? with
  | none => r
  | some m =>
    let r' := { r with tenantId := m.tenantId }
    if r.roleOpen ∧ m.role ≠ "" ∧ m.role ∈ validRoles then r'.takeRole m.role else r'

/-- The invitation that is consulted, if one is. -/
def lastInvitation (email : String) (r : Resolution) : Option Membership :=
  if w.tenantsForEmail email = [] ∨ (w.mappedTo email r).roleOpen then
    (w.invitedTo email).filter fun m => m.tenantId ≠ "" ∧ m.role ≠ ""
  else none

/-- The lookup of an email in the control plane: what it resolves to, and the membership to add. -/
def lastResort (email : String) (r : Resolution) : Resolution × Option Membership :=
  match w.lastInvitation email r with
  | none => (w.mappedTo email r, none)
  | some m => ({ (w.mappedTo email r).takeRole m.role with tenantId := m.tenantId }, some m)

/-- The row of the tenant's table: `UPPER(email) = UPPER($1)`. -/
def localUser (tenantId email : String) : Option UserRow :=
  (w.users tenantId).find? fun u => UpperEq u.email email

/-- `SELECT status FROM user_tenant_map WHERE email = $1 AND tenant_id = $2`. -/
def membershipStatus (email tenantId : String) : Option MembershipStatus :=
  (w.userTenantMap.find? fun m => CiEq m.email email ∧ m.tenantId = tenantId).map
    MembershipRow.status

end World

end Tables

/-! ## Steps -/

section Steps

variable [Unicode]

def ask {α : Type} (f : World → α) : Prog α := query fun s => f s.val

def write (f : World → World) : Prog Unit := exec .databaseError f

/-- Try something whose failure is only logged. -/
def ignoring (m : Prog Unit) : Prog Unit := do
  let _ ← attempt m
  pure ()

def missingToken : PyError := .httpException 401 "Missing authentication token"

def invalidToken : PyError := .httpException 401 "Invalid or expired token"

/-- The payload of the token, and whether the single sign-on issued it. -/
def decodeCredentials : Option Credentials → Prog (Claims × Bool)
  | none => throw missingToken
  | some (.internal token) => do
    let now ← ask World.now
    raiseIf (token.exp ≤ now) invalidToken
    pure (token.claims, false)
  | some (.keycloak claims) => pure (claims, true)
  | some .invalid => throw invalidToken

/-- The roles that the token of the single sign-on may not give. -/
def ownRole (c : Claims) (isKeycloak : Bool) : String :=
  if isKeycloak then "pending" else tokenRole c.role

def ownRoles (c : Claims) (isKeycloak : Bool) : List String :=
  tokenRoles (ownRole c isKeycloak) (if isKeycloak then [] else c.roles)

/-- A super admin of the control plane is recognised by its email. -/
def recognise (c : Claims) (isKeycloak known : Bool) : Resolution :=
  let r : Resolution :=
    { userId := c.sub, role := ownRole c isKeycloak, extracted := ownRoles c isKeycloak
      tenantId := c.hintedTenant }
  if r.role = "pending" ∧ c.emailOr ≠ "" ∧ known then
    { r with
      role := "super_admin"
      extracted :=
        "super_admin" :: (r.extracted.filter (· ≠ "pending")) ++ permissionsOf "super_admin" }
  else r

def Resolution.isSuperAdmin (r : Resolution) : Bool :=
  r.role = "super_admin" ∨ "super_admin" ∈ r.extracted

def fetchMemberships (email : String) : Option (List Membership) → Prog (List Membership)
  | some memberships => pure memberships
  | none => do
    let memberships ← ask fun w => w.verifiedMemberships email
    write fun w => w.cacheMemberships email memberships
    pure memberships

/-- The verified memberships, or what the cache holds of them. -/
def resolveMemberships (email : String) (isSuperAdmin : Bool) : Prog (List Membership) :=
  if isSuperAdmin ∨ email = "" then pure []
  else do
    let cached ← ask fun w => w.cachedMemberships email
    fetchMemberships email cached

/-! ### Schools -/

def upsertMap (email : String) : Option Membership → Prog Unit
  | none => pure ()
  | some m => (upsertUserTenantMap email m.tenantId m.role).seq

/-- Is the lookup of the email needed? -/
def needsLastResort (c : Caller) (r : Resolution) : Bool :=
  c.orgAmbiguous = false ∧ (unresolved r.tenantId ∨ r.role ∈ ["student", "pending"]) ∧ c.email ≠ ""

/-- The last resort: from the email to the newest membership or invitation. -/
def tryLastResort (c : Caller) (r : Resolution) : Prog Resolution :=
  if needsLastResort c r then do
    let found ← ask fun w => w.lastResort c.email r
    ignoring (upsertMap c.email found.2)
    pure found.1
  else pure r

def notAMember : PyError := .httpException 403 "You are not a member of that school."

def selected (requested : String) (m : Membership) : Bool :=
  Text.lower (Text.strip m.tenantId) = requested

/-- The school of the header: an assertion by a super admin, a selection by everyone else. The flag
says that it is another school than the token's. -/
def selectTenant (c : Caller) (requested : String) (r : Resolution) : Prog (Resolution × Bool) :=
  -- the audits here raise on a name of their own before they open a pool, and that is swallowed
  if c.isSuperAdmin then
    pure ({ r with tenantId := requested }, false)
  else match c.memberships.find? (selected requested) with
    | none => throw notAMember
    | some m => pure ({ r with tenantId := m.tenantId }, m.tenantId ≠ r.tenantId)

/-- What the header selects, if it says anything. -/
def applySelection (c : Caller) (selection : Option String) (r : Resolution) :
    Prog (Resolution × Bool) :=
  match selection.filter fun t => Text.strip t ≠ "" with
  | none => pure (r, false)
  | some t => selectTenant c (Text.lower (Text.strip t)) r

/-- The role of the user found in a tenant. -/
def takeFound (tenantId role : String) (r : Resolution) : Resolution :=
  if role ≠ "" ∧ role ∉ unplaced then
    { r with tenantId := tenantId, role := role, extracted := role :: r.extracted }
  else { r with tenantId := tenantId }

def foundIn (email tenantId : String) (r : Resolution) (user : UserRow) : Prog Resolution := do
  let r' := takeFound tenantId user.role r
  ignoring (upsertMap email (some ⟨tenantId, if r'.role = "" then "pending" else r'.role⟩))
  pure r'

def lookInto (email tenantId : String) : Prog (Option UserRow) := do
  openPool tenantId
  ask fun w => w.localUser tenantId (Text.strip email)

/-- The first tenant in whose table the email is. -/
def scanUsers (email : String) (r : Resolution) : List TenantRow → Prog Resolution
  | [] => pure r
  | t :: ts =>
    if t.tenantId = "" then scanUsers email r ts
    else do
      let found ← attempt (lookInto email t.tenantId)
      match found.join with
      | none => scanUsers email r ts
      | some user => foundIn email t.tenantId r user

/-- The last-ditch scan of every tenant. -/
def tryScan (c : Caller) (r : Resolution) : Prog Resolution :=
  if unresolved r.tenantId ∧ c.email ≠ "" ∧ c.isSuperAdmin = false ∧ c.orgAmbiguous = false ∧
      c.memberships = [] then do
    let tenants ← ask World.tenants
    scanUsers c.email r tenants
  else pure r

def chooseSchool : PyError := .httpException 400
  "Your account belongs to more than one school. Choose one to continue."

def noSchool : PyError := .httpException 400
  ("Your account is not associated with a school. Ask an " ++
    "administrator to invite you to one.")

/-- An unresolvable tenant is an error, never a guess; only a super admin needs none. -/
def failClosed (c : Caller) (r : Resolution) : Prog Resolution :=
  if unresolved r.tenantId then
    if c.isSuperAdmin then pure { r with tenantId := "" }
    else throw (if 1 < c.memberships.length then chooseSchool else noSchool)
  else pure r

/-! ### The tenant's own table -/

/-- The roles that the row of the tenant's table adds. -/
def rowRoles (extracted : List String) (u : UserRow) : List String :=
  let own := (if u.role ∈ validRoles then u.role :: extracted else extracted) ++
    u.roles.filter fun q => q ∈ validRoles ∧ q ∉ unplaced
  let kept := if u.role ≠ "student" ∧ "student" ∉ u.roles then own.filter (· ≠ "student") else own
  kept ++ u.permissions.filter (· ≠ "")

/-- The row of the tenant's table. A selection replaces what the token said,
anything else adds to it. -/
def withUserRow (isSuperAdmin switched : Bool) (u : UserRow) (r : Resolution) : Resolution :=
  let r := { r with userId := toString u.id, extracted := if switched then [] else r.extracted }
  if u.role ∈ unplaced ∧ isSuperAdmin = false then
    { r with role := u.role, extracted := ["pending"] }
  else
    { r with
      role := if u.role ∈ validRoles ∧ (switched ∨ r.roleOpen) then u.role else r.role
      extracted := rowRoles r.extracted u }

/-- The hash of an account of the single sign-on. -/
def keycloakManaged : String := "keycloak_managed"

/-- `INSERT INTO users … ON CONFLICT (email) DO NOTHING RETURNING id`. -/
def provisionUser (tenantId email role : String) : Prog (Option Nat) := do
  let there ← ask fun w => (w.users tenantId).any fun u => CiEq u.email email
  if there then pure none
  else do
    let id ← ask fun w => w.nextUserId tenantId
    write fun w => w.updateSchema tenantId (UserRepository.withUser email keycloakManaged role)
    pure (some id)

def winnerOf (tenantId email : String) : Option Nat → Prog (Option Nat)
  | some id => pure (some id)
  | none => do
    let user ← ask fun w => w.localUser tenantId email
    pure (user.map UserRow.id)

/-- The user is created where it is seen first. -/
def provision (email : String) (r : Resolution) : Prog Resolution := do
  let created ← provisionUser r.tenantId email r.role
  let localId ← winnerOf r.tenantId email created
  match localId with
  | none => pure r
  | some id => do
    ignoring (upsertMap email (some ⟨r.tenantId, r.role⟩))
    pure { r with userId := toString id }

/-- What the tenant's table says of the user; `none` refuses a selection. -/
def resolveUser (c : Caller) (switched : Bool) (r : Resolution) :
    Option UserRow → Prog (Option Resolution)
  | some u => pure (some (withUserRow c.isSuperAdmin switched u r))
  | none =>
    if switched then pure none
    else if c.isSuperAdmin then pure (some r)
    else some <$> provision c.email r

def lookUpUser (c : Caller) (switched : Bool) (r : Resolution) : Prog (Option Resolution) := do
  openPool r.tenantId
  let user ← ask fun w => w.localUser r.tenantId (Text.strip c.email)
  resolveUser c switched r user

def refuseSelection : Option Resolution → Prog Resolution
  | none => throw notAMember
  | some r => pure r

/-- The block of the tenant's own table: only the refusal of a selection gets out of it. -/
def readUser (c : Caller) (switched : Bool) (r : Resolution) : Prog Resolution :=
  if c.email = "" ∨ r.tenantId = "" then pure r
  else do
    let found ← attempt (lookUpUser c switched r)
    refuseSelection (found.getD (some r))

/-! ### Parents of the single sign-on -/

/-- `INSERT INTO parents … ON CONFLICT (email) DO NOTHING`. -/
def provisionParent (email : String) : Prog Nat := do
  let row ← ask fun w => w.parentByEmail email
  match row with
  | some p => pure p.id
  | none => do
    let id ← ask World.seq
    write fun w =>
      { w with parents := w.parents ++ [⟨id, email, keycloakManaged⟩], seq := w.seq + 1 }
    pure id

def linkParent (parentId : Nat) (tenantId : String) : Prog Unit := do
  let there ← ask fun w => w.linked parentId tenantId
  onlyIf (there = false) (write fun w =>
    { w with parentTenantLinks := w.parentTenantLinks ++ [⟨parentId, tenantId, w.now⟩] })

def citextUser (tenantId email : String) (w : World) : Option UserRow :=
  (w.users tenantId).find? fun u => CiEq u.email email

def localParent (tenantId email : String) : Prog Nat := do
  openPool tenantId
  let there ← ask (citextUser tenantId email)
  match there with
  | some u => pure u.id
  | none => do
    let id ← ask fun w => w.nextUserId tenantId
    write fun w => w.updateSchema tenantId (UserRepository.withUser email keycloakManaged "parent")
    pure id

def provisionLocalParent (email tenantId : String) : Prog Nat := do
  let parentId ← provisionParent email
  linkParent parentId tenantId
  localParent tenantId email

/-- A parent of the single sign-on gets an account and a link. -/
def ensureParent (c : Caller) (r : Resolution) : Prog Resolution :=
  if r.role = "parent" ∧ c.email ≠ "" ∧ c.isKeycloak then do
    let localId ← attempt (provisionLocalParent c.email r.tenantId)
    match localId with
    | none => pure r
    | some id => do
      ignoring (upsertMap c.email (some ⟨r.tenantId, "parent"⟩))
      pure { r with userId := toString id }
  else pure r

/-! ### The status of the membership -/

def suspendedOrRevoked : PyError :=
  .httpException 403 "Your access to this school has been suspended or revoked."

def checkMembership (c : Caller) (r : Resolution) : Prog Unit := do
  let status ← ask fun w => w.membershipStatus (normalize c.email) r.tenantId
  raiseIf (c.isSuperAdmin = false ∧ r.tenantId ≠ "" ∧ c.email ≠ "" ∧
    status ∈ [some .suspended, some .revoked]) suspendedOrRevoked

end Steps

/-! ## The user -/

section User

variable [Unicode] [Platform]

/-- The roles of the user: a set, listed. -/
def finalRoles (r : Resolution) : List String :=
  if r.extracted = [] then [r.role] else Platform.listed (expand r.extracted).dedup

def currentUser (c : Caller) (r : Resolution) : CurrentUser where
  id := r.userId
  tenantId := Text.nonEmpty (some r.tenantId)
  role := r.role
  email := c.email
  roles := finalRoles r
  memberships := c.memberships

/-- From the token to the caller, and what the token says of the school. -/
def identify (c : Claims) (isKeycloak : Bool) : Prog (Caller × Resolution) := do
  let known ← ask fun w => w.isSuperAdminEmail c.emailOr
  let r := recognise c isKeycloak known
  let memberships ← resolveMemberships c.emailOr r.isSuperAdmin
  pure (⟨c.emailOr, isKeycloak, r.isSuperAdmin, c.orgAmbiguous, memberships⟩, r)

/-- The school of the request. -/
def resolveTenant (c : Caller) (selection : Option String) (r : Resolution) :
    Prog (Resolution × Bool) := do
  let r ← tryLastResort c r
  let (r, switched) ← applySelection c selection r
  let r ← tryScan c r
  let r ← failClosed c r
  pure (r, switched)

/-- The user in that school. -/
def resolveAccount (c : Caller) (switched : Bool) (r : Resolution) : Prog CurrentUser := do
  let r ← readUser c switched r
  let r ← ensureParent c r
  checkMembership c r
  pure (currentUser c r)

/-- `get_current_user`. -/
def getCurrentUser (request : HttpRequest) : Prog CurrentUser := do
  let (claims, isKeycloak) ← decodeCredentials request.credentials
  let (caller, r) ← identify claims isKeycloak
  let (r, switched) ← resolveTenant caller request.selection r
  resolveAccount caller switched r

end User

end Sams.Auth
