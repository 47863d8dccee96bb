import Mathlib.Data.List.Sort
import Sams.Authz
import Sams.Lib.Interleaving
import Sams.School.Tables

/-!
# Accounts, memberships and tokens

What authentication reads and writes: the control plane (tenants, global accounts, memberships,
invitations, refresh tokens and selection challenges), the `users` table of every tenant's schema,
and what the process holds: the pools it has opened and its cache of memberships. A `State`
satisfies the constraints the schemas declare.

The generated identifiers, the salts and the opaque tokens are drawn from one sequence, `seq`; the
users of a tenant have a sequence of their own. What a drawn token, a hash or the order of a set
looks like is a parameter of the development, the class `Platform`.
-/

namespace Sams.Auth

open Programs Rows Interleaving

/-- What authentication takes from its platform: random tokens, the hash functions, the order in
which a set is listed, and two settings. -/
class Platform where
  /-- `secrets.token_urlsafe`: the token drawn under a number. -/
  token : Nat → String
  /-- `_hash_opaque_token`. -/
  hashToken : String → String
  /-- `hash_password`, with the salt drawn under a number. -/
  hashPassword : Nat → String → String
  /-- `verify_password`. -/
  verifyPassword : String → String → Bool
  /-- `list` of a set. -/
  listed : List String → List String
  listed_perm : ∀ l, (listed l).Perm l
  /-- The text of the identifier drawn under a number. -/
  uuidText : Nat → String
  /-- `JWT_EXPIRATION_MINUTES`. -/
  jwtExpirationMinutes : Nat
  /-- `REFRESH_TOKEN_EXPIRATION_DAYS`. -/
  refreshTokenExpirationDays : Nat

/-- A platform on which runs are evaluated: tokens of a letter, hashes that show what they are
of. -/
@[reducible] def plain : Platform where
  token n := String.ofList (List.replicate n 't')
  hashToken raw := raw
  hashPassword salt password := String.ofList (List.replicate salt 's') ++ "$" ++ password
  verifyPassword password hash := (hash.toList.dropWhile (· ≠ '$')).drop 1 = password.toList
  listed l := l
  listed_perm l := List.Perm.refl l
  uuidText n := String.ofList (List.replicate n 'u')
  jwtExpirationMinutes := 15
  refreshTokenExpirationDays := 30

/-! ## Rows -/

/-- A row of a tenant's `users`. -/
structure UserRow where
  id : Nat
  email : String
  role : String
  roles : List String
  permissions : List String
  passwordHash : String
  deriving DecidableEq, Repr

/-- The schema of a tenant: its `users`, and the sequence of their identifiers. -/
structure SchemaRow where
  tenantId : String
  users : List UserRow
  nextUserId : Nat
  deriving DecidableEq, Repr

structure TenantRow where
  tenantId : String
  deriving DecidableEq, Repr

structure SuperAdminRow where
  id : Nat
  email : String
  passwordHash : String
  deriving DecidableEq, Repr

/-- A row of the global `parents`. -/
structure ParentRow where
  id : Nat
  email : String
  passwordHash : String
  deriving DecidableEq, Repr

structure ParentTenantLinkRow where
  parentId : Nat
  tenantId : String
  createdAt : Nat
  deriving DecidableEq, Repr

structure IdentityRow where
  id : Nat
  email : String
  deriving DecidableEq, Repr

/-- `user_tenant_map.status`. -/
inductive MembershipStatus where
  | invited
  | pendingApproval
  | active
  | suspended
  | revoked
  deriving DecidableEq, Repr

instance : LawfulBEq (Option MembershipStatus) := inferInstance

/-- A row of `user_tenant_map`. -/
structure MembershipRow where
  identityId : Nat
  email : String
  tenantId : String
  role : String
  status : MembershipStatus
  updatedAt : Nat
  lastActiveAt : Option Nat
  isDefault : Bool
  deriving DecidableEq, Repr

/-- A row of `invitations`. -/
structure InvitationRow where
  id : Nat
  code : String
  tenantId : String
  role : String
  targetEmail : Option String
  maxUses : Int
  usesCount : Int
  expiresAt : Nat
  createdAt : Nat
  isActive : Bool
  deriving DecidableEq, Repr

/-- A row of `user_invitations`. -/
structure UserInvitationRow where
  id : Nat
  email : String
  tenantId : String
  role : String
  status : String
  createdAt : Nat
  deriving DecidableEq, Repr

/-- An entry of `_MEMBERSHIP_CACHE`. -/
structure CacheEntry where
  email : String
  time : Nat
  memberships : List Authz.Membership
  deriving DecidableEq, Repr

/-- A row of `auth_selection_challenges`. -/
structure ChallengeRow where
  tokenHash : String
  identityId : Nat
  matchedTenants : List String
  consumedAt : Option Nat
  expiresAt : Nat
  deriving DecidableEq, Repr

structure RefreshTokenRow where
  id : Nat
  tokenHash : String
  identityId : Nat
  tenantId : String
  role : String
  familyId : Nat
  revokedAt : Option Nat
  replacedBy : Option Nat
  expiresAt : Nat
  deriving DecidableEq, Repr

structure World where
  tenants : List TenantRow
  schemas : List SchemaRow
  superAdmins : List SuperAdminRow
  parents : List ParentRow
  parentTenantLinks : List ParentTenantLinkRow
  identities : List IdentityRow
  userTenantMap : List MembershipRow
  invitations : List InvitationRow
  userInvitations : List UserInvitationRow
  selectionChallenges : List ChallengeRow
  refreshTokens : List RefreshTokenRow
  /-- The tenants whose pool the process has opened. -/
  opened : List String
  /-- The tenants whose pool does not answer. -/
  unreachable : List String
  /-- `_MEMBERSHIP_CACHE` of the process. -/
  membershipCache : List CacheEntry
  /-- The next number to draw. -/
  seq : Nat
  /-- The clock, in seconds. -/
  now : Nat
  deriving DecidableEq, Repr

/-! ## Comparisons of emails -/

/-- `email.strip().lower()`. -/
def normalize [Unicode] (email : String) : String := Text.lower (Text.strip email)

/-- Equality of `CITEXT` columns. -/
def CiEq [Unicode] (a b : String) : Prop := Unicode.sqlLower a = Unicode.sqlLower b

/-- `UPPER(a) = UPPER(b)`. -/
def UpperEq [Unicode] (a b : String) : Prop := Unicode.sqlUpper a = Unicode.sqlUpper b

instance [Unicode] (a b : String) : Decidable (CiEq a b) := inferInstanceAs (Decidable (_ = _))

instance [Unicode] (a b : String) : Decidable (UpperEq a b) := inferInstanceAs (Decidable (_ = _))

/-! ## Constraints -/

section Constraints

variable [Unicode]

/-- The constraints of one tenant's `users`. Identifiers come from the sequence. -/
@[mk_iff]
structure SchemaRow.Ok (t : SchemaRow) : Prop where
  user_key : Keyed UserRow.id t.users
  user_seq : ∀ u ∈ t.users, u.id < t.nextUserId
  user_email : Keyed (fun u => Unicode.sqlLower u.email) t.users
  users_role_check : ∀ u ∈ t.users, u.role ∈ School.userRoles

/-- The unique constraints. -/
@[mk_iff]
structure World.Keys (w : World) : Prop where
  tenant : Keyed TenantRow.tenantId w.tenants
  schema_name : Keyed SchemaRow.tenantId w.schemas
  super_admin_email : Keyed (fun a => Unicode.sqlLower a.email) w.superAdmins
  parent_email : Keyed (fun p => Unicode.sqlLower p.email) w.parents
  parent_key : Keyed ParentRow.id w.parents
  link_key : Keyed (fun l => (l.parentId, l.tenantId)) w.parentTenantLinks
  identity_key : Keyed IdentityRow.id w.identities
  identity_email : Keyed (fun i => Unicode.sqlLower i.email) w.identities
  membership_key : Keyed (fun m => (m.identityId, m.tenantId)) w.userTenantMap
  membership_email : Keyed (fun m => (Unicode.sqlLower m.email, m.tenantId)) w.userTenantMap
  membership_default : Keyed MembershipRow.identityId
    (w.userTenantMap.filter MembershipRow.isDefault)
  invitation_key : Keyed InvitationRow.id w.invitations
  invitation_code : Keyed InvitationRow.code w.invitations
  user_invitation_key : Keyed UserInvitationRow.id w.userInvitations
  challenge_hash : Keyed ChallengeRow.tokenHash w.selectionChallenges
  refresh_key : Keyed RefreshTokenRow.id w.refreshTokens
  refresh_hash : Keyed RefreshTokenRow.tokenHash w.refreshTokens

/-- The foreign keys. `refresh_tokens.tenant_id` is none. -/
@[mk_iff]
structure World.Refs (w : World) : Prop where
  link_parent : Refers (fun l => some l.parentId) ParentRow.id w.parentTenantLinks w.parents
  link_tenant : Refers (fun l => some l.tenantId) TenantRow.tenantId w.parentTenantLinks w.tenants
  membership_identity :
    Refers (fun m => some m.identityId) IdentityRow.id w.userTenantMap w.identities
  membership_tenant :
    Refers (fun m => some m.tenantId) TenantRow.tenantId w.userTenantMap w.tenants
  invitation_tenant : Refers (fun i => some i.tenantId) TenantRow.tenantId w.invitations w.tenants
  user_invitation_tenant :
    Refers (fun i => some i.tenantId) TenantRow.tenantId w.userInvitations w.tenants
  challenge_identity :
    Refers (fun c => some c.identityId) IdentityRow.id w.selectionChallenges w.identities
  refresh_identity :
    Refers (fun r => some r.identityId) IdentityRow.id w.refreshTokens w.identities
  refresh_replaced_by :
    Refers RefreshTokenRow.replacedBy RefreshTokenRow.id w.refreshTokens w.refreshTokens

/-- Generated identifiers were drawn. -/
@[mk_iff]
structure World.Drawn (w : World) : Prop where
  identity : ∀ i ∈ w.identities, i.id < w.seq
  refresh : ∀ r ∈ w.refreshTokens, r.id < w.seq

/-- The roles that `invitations.role` admits. -/
def invitationRoles : List String :=
  ["school_admin", "teacher", "parent", "student", "manager", "super_admin"]

/-- What the schemas declare. -/
@[mk_iff]
structure World.Ok (w : World) : Prop where
  schemas : ∀ t ∈ w.schemas, t.Ok
  keys : w.Keys
  refs : w.Refs
  drawn : w.Drawn
  invitations_role_check : ∀ i ∈ w.invitations, i.role ∈ invitationRoles

instance (t : SchemaRow) : Decidable t.Ok := decidable_of_iff _ (SchemaRow.ok_iff t).symm

instance (w : World) : Decidable w.Keys := decidable_of_iff _ (World.keys_iff w).symm

instance (w : World) : Decidable w.Refs := decidable_of_iff _ (World.refs_iff w).symm

instance (w : World) : Decidable w.Drawn := decidable_of_iff _ (World.drawn_iff w).symm

instance : DecidablePred World.Ok := fun w => decidable_of_iff _ (World.ok_iff w).symm

/-- A world that satisfies every constraint. -/
abbrev State := Checked World.Ok

/-- What an action is, where it matters. -/
inductive Mark where
  /-- The `UPDATE` that revokes a refresh token which was rotated. -/
  | revoke (tokenId : Nat)
  deriving DecidableEq, Repr

/-- A request, action by action. -/
abbrev Task := Proc Mark PyError State

end Constraints

/-! ## Reading -/

/-- `UPPER(email) = UPPER($1)`; no email finds nothing. -/
def findUser [Unicode] (users : List UserRow) (email : String) : Option UserRow :=
  if email = "" then none else users.find? fun u => UpperEq u.email (Text.strip email)

namespace World

variable (w : World)

def schema? (tenantId : String) : Option SchemaRow := w.schemas.find? fun t => t.tenantId = tenantId

/-- The `users` of a tenant; nothing when it has no schema. -/
def users (tenantId : String) : List UserRow := ((w.schema? tenantId).map SchemaRow.users).getD []

def nextUserId (tenantId : String) : Nat := ((w.schema? tenantId).map SchemaRow.nextUserId).getD 1

def isRegistered (tenantId : String) : Bool := w.tenants.any fun t => t.tenantId = tenantId

/-- A schema must have a name, and the database must answer. -/
def reachable (tenantId : String) : Bool := tenantId ≠ "" ∧ tenantId ∉ w.unreachable

def linked (parentId : Nat) (tenantId : String) : Bool :=
  w.parentTenantLinks.any fun l => l.parentId = parentId ∧ l.tenantId = tenantId

variable [Unicode]

def userByEmail (tenantId email : String) : Option UserRow := findUser (w.users tenantId) email

def superAdminByEmail (email : String) : Option SuperAdminRow :=
  w.superAdmins.find? fun a => CiEq a.email email

def parentByEmail (email : String) : Option ParentRow :=
  w.parents.find? fun p => CiEq p.email email

def identityByEmail (email : String) : Option IdentityRow :=
  w.identities.find? fun i => CiEq i.email email

/-- `ORDER BY updated_at DESC, tenant_id ASC`. -/
def newestFirst (m m' : MembershipRow) : Prop :=
  m'.updatedAt < m.updatedAt ∨ m.updatedAt = m'.updatedAt ∧ ¬m'.tenantId < m.tenantId

instance (m m' : MembershipRow) : Decidable (newestFirst m m') :=
  inferInstanceAs (Decidable (_ ∨ _))

def tenantsForEmail (email : String) : List MembershipRow :=
  (w.userTenantMap.filter fun m => CiEq m.email (normalize email)).insertionSort newestFirst

/-- `ORDER BY created_at DESC, tenant_id ASC`. -/
def tenantsForParent (parentId : Nat) : List String :=
  ((w.parentTenantLinks.filter fun l => l.parentId = parentId).insertionSort fun l l' =>
    l'.createdAt < l.createdAt ∨ l.createdAt = l'.createdAt ∧ ¬l'.tenantId < l.tenantId).map
      ParentTenantLinkRow.tenantId

end World

end Sams.Auth
