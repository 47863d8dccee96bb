import Mathlib.Data.List.Dedup
import Sams.Auth.World
import Sams.Lib.Resuming

/-!
# The revisions of the control plane

`user_tenant_map` began with one row for each email, and became the membership of an identity in a
school. Two paths lead there: the revisions `cp_0002` to `cp_0004`, which stop where one email may
stand for two people, and the statements that the service itself runs when it starts.

Emails are compared as `citext` does, so an email here is what is the same for all its spellings.
-/

namespace Sams.Identities

open Auth (MembershipStatus)
open Rows Resuming

/-! ## Tables -/

/-- `identity_merge_decisions.decision`. -/
inductive Decision where
  | samePerson
  | distinctPeople
  deriving DecidableEq, Repr

/-- The primary key of `user_tenant_map`. -/
inductive PrimaryKey where
  | email
  | emailTenant
  | identityTenant
  deriving DecidableEq, Repr

structure ParentRow (E : Type) where
  id : Nat
  email : E
  deriving DecidableEq, Repr

/-- A row of `parent_tenant_links`. -/
structure LinkRow (T : Type) where
  parentId : Nat
  tenantId : T
  deriving DecidableEq, Repr

structure IdentityRow (E : Type) where
  id : Nat
  email : E
  deriving DecidableEq, Repr

/-- A row of `user_tenant_map`. Before `cp_0004` the last four columns are not there, and
are as it adds them. -/
structure MapRow (E T : Type) where
  email : E
  tenantId : T
  role : String
  updatedAt : Nat
  identityId : Option Nat := none
  status : MembershipStatus := .active
  roles : List String := []
  isDefault : Bool := false
  deriving DecidableEq, Repr

/-- The tables of the control plane that the revisions read and write; a table that is
not there is `none`. -/
structure Plane (E T : Type) where
  parents : List (ParentRow E)
  superAdmins : List E
  parentTenantLinks : List (LinkRow T)
  userTenantMap : List (MapRow E T)
  primaryKey : PrimaryKey
  /-- The columns that `cp_0004` adds are there. -/
  lifecycle : Bool
  /-- `idx_utm_email_tenant` -/
  emailTenantIndex : Bool
  /-- `idx_utm_one_default` -/
  defaultIndex : Bool
  identityMergeDecisions : Option (List (E × Decision))
  identities : Option (List (IdentityRow E))
  /-- The next id to be drawn. -/
  next : Nat
  deriving DecidableEq, Repr

/-- Why a revision stops. -/
inductive Abort (E : Type) where
  | unreviewed (emails : List E)
  | unidentified (missing : Nat)
  | database
  deriving DecidableEq, Repr

variable {E T : Type} [DecidableEq E] [DecidableEq T]

/-- The rows are as the primary key wants them. -/
def PrimaryKey.Holds (k : PrimaryKey) (rows : List (MapRow E T)) : Prop :=
  match k with
  | email => Keyed MapRow.email rows
  | emailTenant => Keyed (fun m => (m.email, m.tenantId)) rows
  | identityTenant =>
    (∀ m ∈ rows, m.identityId ≠ none) ∧ Keyed (fun m => (m.identityId, m.tenantId)) rows

instance (k : PrimaryKey) (rows : List (MapRow E T)) : Decidable (k.Holds rows) := by
  induction k using PrimaryKey.casesOn <;> unfold PrimaryKey.Holds <;> infer_instance

/-! ## Statements -/

namespace Plane

variable (p : Plane E T)

/-- `ALTER TABLE user_tenant_map DROP CONSTRAINT ... ADD CONSTRAINT ... PRIMARY KEY`. -/
def rekey (k : PrimaryKey) : Except (Abort E) (Plane E T) :=
  if k.Holds p.userTenantMap then .ok { p with primaryKey := k } else .error .database

def createDecisions : Plane E T :=
  { p with identityMergeDecisions := some (p.identityMergeDecisions.getD []) }

/-- The account stores in which an email is found. A parent's membership is no
account of its own. -/
inductive Store where
  | parent
  | superAdmin
  | tenantMember
  deriving DecidableEq, Repr

/-- `by_store`. -/
def byStore : List (E × Store) :=
  (p.parents.map fun q => (q.email, .parent)) ++ (p.superAdmins.map fun e => (e, .superAdmin)) ++
    ((p.userTenantMap.filter fun m => m.role ≠ "parent").map fun m => (m.email, .tenantMember))

/-- `GROUP BY email HAVING COUNT(DISTINCT store) > 1`. -/
def collisions : List E :=
  (p.byStore.map Prod.fst).dedup.filter fun e =>
    1 < ((p.byStore.filter fun x => x.1 = e).map Prod.snd).dedup.length

/-- Where the ledger is not there, nothing has been decided. -/
def decided (e : E) : Prop := ∃ d ∈ p.identityMergeDecisions.getD [], d.1 = e

instance (e : E) : Decidable (p.decided e) := by unfold decided; infer_instance

/-- The query of the gate, with `NOT EXISTS (SELECT 1 FROM identity_merge_decisions ...)`. -/
def undecided : List E := p.collisions.filter fun e => ¬p.decided e

def gate : Except (Abort E) (Plane E T) :=
  if p.undecided = [] then .ok p else .error (.unreviewed p.undecided)

def createIdentities : Plane E T := { p with identities := some (p.identities.getD []) }

/-- `SELECT email FROM user_tenant_map UNION ... parents UNION ... super_admins`. -/
def emails : List E :=
  (p.userTenantMap.map MapRow.email ++ p.parents.map ParentRow.email ++ p.superAdmins).dedup

/-- The emails that have no identity yet. -/
def unknown : List E := p.emails.filter fun e => ∀ i ∈ p.identities.getD [], i.email ≠ e

/-- `INSERT INTO identities (email) ... ON CONFLICT (email) DO NOTHING`. -/
def backfill : Plane E T :=
  { p with
    identities := some (p.identities.getD [] ++ p.unknown.zipIdx.map fun x => ⟨p.next + x.2, x.1⟩)
    next := p.next + p.unknown.length }

end Plane

/-- A row with the columns that `cp_0004` adds, or without them. -/
def MapRow.plain (m : MapRow E T) : MapRow E T :=
  { m with identityId := none, status := .active, roles := [], isDefault := false }

/-- The identity of an email. -/
def identityOf (ids : List (IdentityRow E)) (e : E) : Option Nat :=
  (ids.find? fun i => i.email = e).map IdentityRow.id

/-- `UPDATE ... FROM identities`, of a row that has no identity. -/
def MapRow.own (ids : List (IdentityRow E)) (m : MapRow E T) : MapRow E T :=
  if m.identityId = none ∧ identityOf ids m.email ≠ none then
    { m with identityId := identityOf ids m.email, roles := if m.roles = [] then [m.role]
      else m.roles }
  else m

namespace Plane

variable (p : Plane E T)

/-- `ADD COLUMN IF NOT EXISTS`. -/
def addColumns : Plane E T :=
  if p.lifecycle then p else
    { p with lifecycle := true, userTenantMap := p.userTenantMap.map MapRow.plain }

def own : Plane E T :=
  { p with userTenantMap := p.userTenantMap.map (MapRow.own (p.identities.getD [])) }

/-- The rows without an identity. -/
def unowned : List (MapRow E T) := p.userTenantMap.filter fun m => m.identityId = none

def checkOwned : Except (Abort E) (Plane E T) :=
  if p.unowned.length = 0 then .ok p else .error (.unidentified p.unowned.length)

/-- `CREATE UNIQUE INDEX IF NOT EXISTS idx_utm_email_tenant`. -/
def createEmailTenantIndex : Except (Abort E) (Plane E T) :=
  if p.emailTenantIndex then .ok p
  else if Keyed (fun m => (m.email, m.tenantId)) p.userTenantMap then
    .ok { p with emailTenantIndex := true }
  else .error .database

/-- `CREATE UNIQUE INDEX IF NOT EXISTS idx_utm_one_default`. -/
def createDefaultIndex : Except (Abort E) (Plane E T) :=
  if p.defaultIndex then .ok p
  else if Keyed MapRow.identityId (p.userTenantMap.filter MapRow.isDefault) then
    .ok { p with defaultIndex := true }
  else .error .database

/-- `parent_tenant_links l JOIN parents p ON ... JOIN identities i ON ...`, as memberships. -/
def linked (now : Nat) : List (MapRow E T) :=
  p.parentTenantLinks.filterMap fun l =>
    (p.parents.find? fun q => q.id = l.parentId).bind fun q =>
      (identityOf (p.identities.getD []) q.email).map fun id =>
        { email := q.email, tenantId := l.tenantId, role := "parent", updatedAt := now,
          identityId := some id, status := .active, roles := ["parent"], isDefault := false }

end Plane

/-- `ON CONFLICT (identity_id, tenant_id) DO NOTHING`; the other unique index raises. -/
def insertMembership (rows : List (MapRow E T)) (row : MapRow E T) :
    Except (Abort E) (List (MapRow E T)) :=
  if ∃ m ∈ rows, m.identityId = row.identityId ∧ m.tenantId = row.tenantId then .ok rows
  else if ∃ m ∈ rows, m.email = row.email ∧ m.tenantId = row.tenantId then .error .database
  else .ok (rows ++ [row])

namespace Plane

variable (p : Plane E T)

def foldLinks (now : Nat) : Except (Abort E) (Plane E T) := do
  let rows ← (p.linked now).foldlM insertMembership p.userTenantMap
  return { p with userTenantMap := rows }

end Plane

/-! ## Revisions -/

variable (p : Plane E T)

/-- `upgrade` of `cp_0002`. -/
def widen : Except (Abort E) (Plane E T) :=
  if p.primaryKey = .email then p.rekey .emailTenant else .ok p

/-- `upgrade` of `cp_0003`. -/
def identify : Except (Abort E) (Plane E T) := do
  let p ← p.createDecisions.gate
  return p.createIdentities.backfill

/-- `upgrade` of `cp_0004`. -/
def promote (now : Nat) : Except (Abort E) (Plane E T) := do
  let p ← p.addColumns.own.checkOwned
  let p ← if p.primaryKey = .emailTenant then p.rekey .identityTenant else .ok p
  let p ← p.createEmailTenantIndex
  let p ← p.createDefaultIndex
  p.foldLinks now

/-- `alembic upgrade control_plane@cp_0004`, of which nothing stays where a revision stops. -/
def upgrade (now : Nat) : Except (Abort E) (Plane E T) := do
  let p ← widen p
  let p ← identify p
  promote p now

/-- The key that `cp_0004` gives the table, where every row has an identity. -/
def adopt : Except (Abort E) (Plane E T) :=
  if p.unowned = [] ∧ p.primaryKey ≠ .identityTenant then p.rekey .identityTenant else .ok p

/-- The same in `_initialize_control_plane_tables`, which has no gate, and commits each statement by
itself: its statements before the seeds. -/
def statements : List (Statement (Plane E T) (Abort E) Nat) :=
  [fun _ p => widen p, fun _ p => .ok p.createDecisions, fun _ p => .ok p.createIdentities,
    fun _ p => .ok p.backfill, fun _ p => .ok p.addColumns, fun _ p => .ok p.own, fun _ p =>
      adopt p, fun _ p => p.createEmailTenantIndex,
    fun _ p => p.createDefaultIndex, fun now p => p.foldLinks now]

/-- The seed of the default super admin, whose email is `sa`. -/
def Plane.seedSuperAdmin (sa : E) : Plane E T :=
  if sa ∈ p.superAdmins then p else { p with superAdmins := p.superAdmins ++ [sa] }

/-- All statements of `_initialize_control_plane_tables`. The seeds come last; those of `tenants`
are of no table of this plane. -/
def startUp (sa : E) : List (Statement (Plane E T) (Abort E) Nat) :=
  statements ++ [fun _ p => .ok (p.seedSuperAdmin sa)]

/-- `_initialize_control_plane_tables` -/
def initializeTables (sa : E) (now : Nat) : Except (Abort E) (Plane E T) :=
  runAll (startUp sa) now p

/-- The email of the default super admin. -/
def defaultSuperAdmin : String := "sa@desk.com"

/-- `downgrade` of `cp_0004`. -/
def demote : Except (Abort E) (Plane E T) := do
  let p ← if p.primaryKey = .identityTenant then p.rekey .emailTenant else .ok p
  return { p with
    defaultIndex := false, emailTenantIndex := false, lifecycle := false
    userTenantMap := p.userTenantMap.map MapRow.plain }

/-- `downgrade` of `cp_0003`. -/
def forget : Plane E T := { p with identities := none, identityMergeDecisions := none }

/-- `(keep.updated_at, keep.tenant_id) > (u.updated_at, u.tenant_id)`. -/
def MapRow.Newer [LT T] (keep u : MapRow E T) : Prop :=
  u.updatedAt < keep.updatedAt ∨ u.updatedAt = keep.updatedAt ∧ u.tenantId < keep.tenantId

instance [LT T] [DecidableLT T] (keep u : MapRow E T) : Decidable (keep.Newer u) := by
  unfold MapRow.Newer; infer_instance

/-- The rows that have no newer one of the same email. -/
def newestOf [LT T] [DecidableLT T] (rows : List (MapRow E T)) : List (MapRow E T) :=
  rows.filter fun u => ∀ keep ∈ rows, keep.email = u.email → ¬keep.Newer u

/-- `downgrade` of `cp_0002`, after `cp_0004` has been taken back. -/
def narrow [LT T] [DecidableLT T] : Except (Abort E) (Plane E T) :=
  let p := { p with userTenantMap := newestOf p.userTenantMap }
  if p.primaryKey ≠ .email then p.rekey .email else .ok p

/-- `alembic downgrade control_plane@cp_0001`. -/
def downgrade [LT T] [DecidableLT T] : Except (Abort E) (Plane E T) := do
  let p ← demote p
  narrow (forget p)

/-! ## Review -/

namespace Plane

variable (p : Plane E T)

/-- `_COLLISION_QUERY`: the emails of more than one store, each with its stores.
Their order is left out. -/
def collisionRows : List (E × List Store) :=
  ((p.byStore.map Prod.fst).dedup.map fun e =>
    (e, ((p.byStore.filter fun x => x.1 = e).map Prod.snd).dedup)).filter fun row =>
      1 < row.2.length

/-- `SELECT 1 FROM identity_merge_decisions WHERE email = $1`, which raises where the
table is not there. -/
def already (e : E) : Option Nat :=
  match p.identityMergeDecisions with
  | none => none
  | some decisions => if ∃ d ∈ decisions, d.1 = e then some 1 else none

/-- `_undecided_collisions` -/
def undecidedCollisions : List (E × List Store) :=
  p.collisionRows.foldl (fun undecided row =>
    if (p.already row.1).isNone then undecided ++ [row] else undecided) []

end Plane

/-- `list_collisions`. The script is a process of its own, which opens the pool of the
control plane first. -/
def listCollisions (sa : E) (now : Nat) : Except (Abort E) Nat := do
  let p ← initializeTables p sa now
  return if p.undecidedCollisions = [] then 0 else 1

/-- `sys.exit`, and what an exception comes to that nobody catches. -/
def exitCode : Except (Abort E) Nat → Nat
  | .ok code => code
  | .error _ => 1

/-! ## Constraints -/

/-- What the tables declare. -/
structure Plane.Ok (p : Plane E T) : Prop where
  parent_key : Keyed ParentRow.id p.parents
  parent_email : Keyed ParentRow.email p.parents
  link_key : p.parentTenantLinks.Nodup
  link_parent : Refers (fun l => some l.parentId) ParentRow.id p.parentTenantLinks p.parents
  identity_key : Keyed IdentityRow.id (p.identities.getD [])
  identity_email : Keyed IdentityRow.email (p.identities.getD [])
  drawn : ∀ i ∈ p.identities.getD [], i.id < p.next
  map_key : p.primaryKey.Holds p.userTenantMap
  map_identity : Refers MapRow.identityId IdentityRow.id p.userTenantMap (p.identities.getD [])
  map_email : p.emailTenantIndex = true → Keyed (fun m => (m.email, m.tenantId)) p.userTenantMap
  map_default : p.defaultIndex = true →
    Keyed MapRow.identityId (p.userTenantMap.filter MapRow.isDefault)

/-- Before `cp_0003`. -/
structure Legacy (p : Plane E T) : Prop extends p.Ok where
  noIdentities : p.identities = none
  noLifecycle : p.lifecycle = false
  byEmail : p.primaryKey ≠ .identityTenant
  plain : ∀ m ∈ p.userTenantMap, m.plain = m

/-- After `cp_0004`. -/
structure Current (p : Plane E T) : Prop extends p.Ok where
  decisions : p.identityMergeDecisions.isSome
  identities : p.identities.isSome
  lifecycle : p.lifecycle = true
  byIdentity : p.primaryKey = .identityTenant
  emailTenantIndex : p.emailTenantIndex = true
  defaultIndex : p.defaultIndex = true

end Sams.Identities
