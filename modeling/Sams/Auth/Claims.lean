import Sams.Auth.Tokens

/-!
# The claims of a token

What a bearer token says: who it is for, the role and roles that were baked into it, and the school
it names. Only tokens of our own carry roles and a tenant; the token of the single sign-on names
schools by its `organization` claim, or hints at one by an attribute, a group or its issuer.
-/

namespace Sams.Auth

open Authz

/-- An item of an `organization` claim. -/
inductive OrgItem where
  | object (orgAlias name id : Option String)
  | text (s : String)
  deriving DecidableEq, Repr

/-- An `organization` claim: an object, a list or a text. -/
inductive OrgClaim where
  | object (keys : List String)
  | items (list : List OrgItem)
  | text (s : String)
  deriving DecidableEq, Repr

/-- The `tenant_id` of the `attributes` claim. -/
inductive TenantAttribute where
  | items (list : List String)
  | text (s : String)
  deriving DecidableEq, Repr

/-- The payload of a token. -/
structure Claims where
  sub : String
  email : Option String := none
  preferredUsername : String := ""
  role : Option String := none
  roles : List String := []
  tenantId : Option String := none
  organization : Option OrgClaim := none
  org : Option OrgClaim := none
  organizations : Option OrgClaim := none
  attributes : Option TenantAttribute := none
  groups : List String := []
  iss : String := ""
  deriving DecidableEq, Repr

/-- The payload of a token of our own. -/
def AccessToken.claims (t : AccessToken) : Claims where
  sub := t.sub
  email := some t.email
  role := some t.role
  roles := t.roles
  tenantId := some t.tenantId

/-- A bearer token, as far as it can be verified. -/
inductive Credentials where
  | internal (token : AccessToken)
  | keycloak (claims : Claims)
  | invalid
  deriving DecidableEq, Repr

namespace Claims

variable (c : Claims)

/-- `payload.get("email") or payload.get("preferred_username", "")`. -/
def emailOr : String := (Text.nonEmpty c.email).getD c.preferredUsername

end Claims

/-! ## Roles -/

/-- The roles of someone nobody has placed yet. -/
def unplaced : List String := ["pending", "none", "unassigned"]

/-- What a composite role carries, added to a list of roles. -/
def expand (roles : List String) : List String := roles ++ roles.flatMap permissionsOf

/-- An administrator goes by two names. -/
def aliased (role : String) (extracted : List String) : List String :=
  if role = "school_admin" ∨ "school_admin" ∈ extracted then "admin" :: extracted
  else if role = "admin" ∨ "admin" ∈ extracted then "school_admin" :: extracted
  else extracted

section Roles

variable [Unicode]

/-- The role that a token carries. -/
def tokenRole : Option String → String
  | none => "pending"
  | some r =>
    let clean := Text.strip (Text.lower r)
    if clean ∈ ["admin", "administrator", "school_admin"] then "school_admin"
    else if clean ∈ validRoles then clean
    else "pending"

/-- The roles that a token carries, expanded. -/
def tokenRoles (role : String) (roles : List String) : List String :=
  expand (aliased role (role :: roles.filter fun r => r ∈ validRoles))

end Roles

/-! ## Schools -/

/-- A claim that is there and not empty. -/
def OrgClaim.truthy : OrgClaim → Bool
  | object keys => keys ≠ []
  | items list => list ≠ []
  | text s => s ≠ ""

/-- The school an item names. -/
def OrgItem.named : OrgItem → Option String
  | object orgAlias name id =>
    (Text.nonEmpty orgAlias).or ((Text.nonEmpty name).or (Text.nonEmpty id))
  | text s => if Text.strip s = "" then none else some (Text.strip s)

def OrgClaim.aliases : OrgClaim → List String
  | object keys => keys
  | items list => list.filterMap OrgItem.named
  | text s => if Text.strip s = "" then [] else [Text.strip s]

namespace Claims

variable (c : Claims)

/-- The schools of the `organization` claim. -/
def orgAliases : List String :=
  (((c.organization.filter OrgClaim.truthy).or
    ((c.org.filter OrgClaim.truthy).or c.organizations)).map OrgClaim.aliases).getD []

/-- Several schools, none of them preferred. -/
def orgAmbiguous : Bool := 1 < c.orgAliases.length

end Claims

/-- `str(val)` where the list is empty. -/
def TenantAttribute.value : TenantAttribute → String
  | items [] => "[]"
  | items (s :: _) => s
  | text s => s

/-- The parts of a group's path. -/
def groupParts (group : String) : List String :=
  ((group.toList.splitOn '/').map fun p => Text.strip (String.ofList p)).filter (· ≠ "")

/-- The first part of a group that looks like a tenant. -/
def groupTenant (groups : List String) : Option String :=
  (groups.flatMap groupParts).find? fun p => "tenant_".toList.isPrefixOf p.toList

/-- What follows the first `sep`. -/
def dropThrough (sep : List Char) : List Char → Option (List Char)
  | [] => none
  | c :: cs => if sep.isPrefixOf (c :: cs) then some ((c :: cs).drop sep.length)
    else dropThrough sep cs

/-- What follows the last `sep`; the `fuel` bounds how often it occurs. -/
def afterLast (sep : List Char) : Nat → List Char → List Char
  | 0, s => s
  | fuel + 1, s => match dropThrough sep s with
    | none => s
    | some rest => afterLast sep fuel rest

section Realm

variable [Unicode]

/-- The realms that are no school. -/
def platformNames : List String := ["schooldesk", "master", "sams"]

/-- A tenant that is missing or names the platform. -/
def unresolved (tenantId : String) : Bool :=
  tenantId = "" ∨ Text.lower tenantId ∈ platformNames

/-- The realm of the issuer. -/
def realmTenant (iss : String) : Option String :=
  (dropThrough "/realms/".toList iss.toList).bind fun rest =>
    let realm := String.ofList (afterLast "/realms/".toList iss.length rest)
    if Text.lower realm ∈ platformNames then none else some realm

namespace Claims

variable (c : Claims)

/-- The first of several guesses that says something. -/
def firstNonEmpty : List (Option String) → String
  | [] => ""
  | guess :: rest => (Text.nonEmpty guess).getD (firstNonEmpty rest)

/-- The tenant that the token names or hints at; nothing is guessed for several schools. -/
def hintedTenant : String :=
  firstNonEmpty (c.tenantId ::
    if c.orgAmbiguous then []
    else [c.orgAliases.head?, c.attributes.map TenantAttribute.value, groupTenant c.groups,
      realmTenant c.iss])

end Claims

end Realm

end Sams.Auth
