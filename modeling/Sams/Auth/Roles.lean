import Sams.Auth.Memberships
import Sams.Auth.Registration

/-!
# Roles

The operations that write the roles of users: `assign_user_role`,
`update_tenant_user_permissions` and `delete_tenant_user`, with the statements of
`UserRepository` that they run. An id arrives as `parse_id` reads it.

Profile rows are left out but for the head teacher that a student's may bring along; so is the audit
log, and what is synchronised with the single sign-on.
-/

namespace Sams.Auth

open Programs Rows

/-- An id, as `parse_id` reads it. -/
inductive UserRef where
  | number (n : Int)
  | uuid
  | text (raw : String)
  /-- Digits that `int` does not read. -/
  | unreadable (e : PyError)
  deriving DecidableEq, Repr

/-! ## Statements -/

section Statements

/-- The primary role first, and every role once. -/
def assignedRoles (primaryRole : String) (roles : List String) : List String :=
  if primaryRole ∈ unplaced then [primaryRole]
  else (primaryRole :: roles.filter fun r => r ≠ "" ∧ r ∉ unplaced).eraseDups

namespace UserRow

/-- `SET role = $1, roles = ARRAY[$1]`. -/
def withRole (role : String) (u : UserRow) : UserRow := { u with role := role, roles := [role] }

/-- `SET role = $1, roles = $2, permissions = $3`. -/
def assigned (primaryRole : String) (roles permissions : List String) (u : UserRow) : UserRow :=
  { u with
    role := primaryRole
    roles := assignedRoles primaryRole roles
    permissions := if primaryRole ∈ unplaced then [] else permissions }

/-- The row says that its user is a super admin. -/
def isSuperAdmin (u : UserRow) : Bool := u.role = "super_admin" ∨ "super_admin" ∈ u.roles

end UserRow

variable [Unicode]

namespace World

def userById (w : World) (tenantId : String) (id : Int) : Option UserRow :=
  (w.users tenantId).find? fun u => (u.id : Int) = id

/-- Rewrite users of a tenant. -/
def updateUsers (w : World) (tenantId : String) (p : UserRow → Bool)
    (f : UserRow → UserRow) : World :=
  w.updateSchema tenantId fun t => { t with users := updateWhere p f t.users }

def removeUser (w : World) (tenantId : String) (id : Int) : World :=
  w.updateSchema tenantId fun t => { t with users := t.users.filter fun u => (u.id : Int) ≠ id }

/-- `DELETE FROM super_admins WHERE UPPER(email) = UPPER($1)`. -/
def removeSuperAdmin (w : World) (email : String) : World :=
  { w with superAdmins := w.superAdmins.filter fun a => ¬UpperEq a.email (Text.strip email) }

/-- `INSERT INTO super_admins … VALUES ($1, 'managed') ON CONFLICT DO NOTHING`. -/
def promote (w : World) (email : String) : World :=
  match w.superAdminByEmail email with
  | some _ => w
  | none => w.addSuperAdmin email "managed"

end World

namespace UserRepository

def getUserById (tenantId : String) : UserRef → Prog (Option UserRow)
  | .number id => ask fun w => w.userById tenantId id
  | .unreadable e => throw e
  | _ => pure none

/-- Does the `UPDATE` end in `UPDATE 1`? -/
def updateUserRole (tenantId email newRole : String) : Prog Bool := do
  raiseIf (newRole ∉ validRoles) (.valueError s!"Invalid tenant user role: {newRole}")
  let n ← ask fun w => (w.users tenantId).countP fun u => UpperEq u.email (Text.strip email)
  write fun w =>
    w.updateUsers tenantId (fun u => UpperEq u.email (Text.strip email)) (UserRow.withRole newRole)
  pure (n = 1)

/-- `UPDATE users … RETURNING …`. -/
def updateReturning (tenantId : String) (p : UserRow → Bool) (f : UserRow → UserRow) :
    Prog (Option UserRow) := do
  let row ← ask fun w => (w.users tenantId).find? p
  write fun w => w.updateUsers tenantId p f
  pure (row.map f)

/-- An email is taken for an id that is no number. -/
def updateUserRolesAndPermissions (tenantId : String) (userId : UserRef) (primaryRole : String)
    (roles permissions : List String) : Prog (Option UserRow) :=
  match userId with
  | .number id =>
    updateReturning tenantId (fun u => (u.id : Int) = id)
      (UserRow.assigned primaryRole roles permissions)
  | .text raw =>
    if '@' ∈ raw.toList then
      updateReturning tenantId (fun u => UpperEq u.email (Text.strip raw))
        (UserRow.assigned primaryRole roles permissions)
    else pure none
  | .uuid => throw .databaseError
  | .unreadable e => throw e

/-- What a user added or priced keeps the row. -/
def deleteUser (tenantId : String) (authored : Bool) : UserRef → Prog (Option UserRow)
  | .number id => do
    let row ← ask fun w => w.userById tenantId id
    raiseIf (row.isSome ∧ authored = true) (.valueError
      ("This user has added or priced event resources and cannot be deleted " ++
        "until those records are reassigned to another staff member."))
    write fun w => w.removeUser tenantId id
    pure row
  | .unreadable e => throw e
  | _ => pure none

end UserRepository

/-- The profile of a student may bring a head teacher along. -/
def ensureProfile (role tenantId : String) (school : Academics) : Prog Unit :=
  onlyIf (role = "student" ∧ school.hasClass = false ∧ school.hasTeacher = false) <|
    ignoring <| write fun w => w.updateSchema tenantId <|
      UserRepository.withUser s!"head_teacher_{tenantId}@school.com" "managed" "teacher"

/-- `_upsert_user_tenant_mapping`. -/
def upsertUserTenantMapping (email tenantId role : String) : Prog Unit :=
  ignoring (ControlPlaneRepository.upsertUserTenantMap email tenantId role).seq

end Statements

/-! ## Operations -/

section Operations

variable [Unicode] [Settings]

def restricted : PyError :=
  .permissionError ("super_admin is restricted to the platform\x27s single designated " ++
    "operator account and cannot be granted to another email.")

def onlySuperAdmins : PyError :=
  .permissionError "Only a super_admin can grant the super_admin role"

namespace AuthService

/-- The row that takes the role, created where there is none. -/
def placeUser (tenantId email newRole : String) : Option UserRow → Prog Unit
  | none => discard (UserRepository.createUser tenantId email "managed" newRole).seq
  | some _ => do
    let success ← UserRepository.updateUserRole tenantId email newRole
    raiseIf (success = false) (.runtimeError s!"Failed to update role for {email} in tenant DB")

def assignUserRole (tenantId email newRole : String) (requestingUserRoles : List String)
    (school : Academics) : Prog Unit := do
  raiseIf (newRole ∉ UserRepository.validRoles) (.valueError s!"Invalid role: {newRole}")
  raiseIf (newRole = "super_admin" ∧ "super_admin" ∉ requestingUserRoles) onlySuperAdmins
  raiseIf (newRole = "super_admin" ∧ ¬IsOperator email) restricted
  openPool tenantId
  let user ← ask fun w => w.userByEmail tenantId email
  placeUser tenantId email newRole user
  ensureProfile newRole tenantId school
  (ControlPlaneRepository.upsertUserTenantMap email tenantId newRole).seq
  onlyIf (newRole = "super_admin") (ignoring (write fun w => w.promote email))

end AuthService

namespace TenantService

/-- The lists that are saved make the user a super admin. -/
def grantsSuperAdmin (primaryRole : String) (roles : List String) : Bool :=
  primaryRole = "super_admin" ∨ "super_admin" ∈ roles

/-- Only a new grant is checked: a row that says super admin already may be saved as one. -/
def checkGrant (existing : Option UserRow) (primaryRole : String) (roles : List String) :
    Prog Unit :=
  raiseIf (grantsSuperAdmin primaryRole roles = true ∧ existing.any UserRow.isSuperAdmin = false ∧
    ¬∃ u ∈ existing, u.email ≠ "" ∧ IsOperator u.email) restricted

/-- What follows in the control plane, where every failure is only logged. -/
def followUp (tenantId : String) (wasSuperAdmin : Bool) (primaryRole : String) (roles : List String)
    (school : Academics) (email : String) : Prog Unit := do
  onlyIf (wasSuperAdmin = true ∧ grantsSuperAdmin primaryRole roles = false)
    (ignoring (write fun w => w.removeSuperAdmin email))
  upsertUserTenantMapping email tenantId primaryRole
  onlyIf (primaryRole = "super_admin") (ignoring (write fun w => w.promote email))
  ensureProfile primaryRole tenantId school

def updatedUser : Option UserRow → Prog UserRow
  | none => throw (.valueError "User not found in tenant")
  | some u => pure u

/-- Up to the `UPDATE` of the row: was it a super admin's before, and what is it now? -/
def saveRoles (tenantId : String) (userId : UserRef) (primaryRole : String)
    (roles permissions userRole : List String) : Prog (Bool × UserRow) := do
  raiseIf (Authz.require userRole ["school_admin", "super_admin", "admin", "user:invite"] = false)
    (.permissionError "Only school administrators can update user roles and permissions")
  raiseIf (grantsSuperAdmin primaryRole roles = true ∧
    Authz.require userRole ["super_admin"] = false)
    onlySuperAdmins
  openPool tenantId
  let existing ← UserRepository.getUserById tenantId userId
  checkGrant existing primaryRole roles
  let row ← UserRepository.updateUserRolesAndPermissions tenantId userId primaryRole
      roles permissions
  let updated ← updatedUser row
  pure (existing.any UserRow.isSuperAdmin, updated)

def updateTenantUserPermissions (tenantId : String) (userId : UserRef) (primaryRole : String)
    (roles permissions userRole : List String) (school : Academics) : Prog UserRow := do
  let (wasSuperAdmin, updated) ← saveRoles tenantId userId primaryRole roles permissions userRole
  onlyIf (updated.email ≠ "")
    (followUp tenantId wasSuperAdmin primaryRole roles school updated.email)
  pure updated

def userNotFound : PyError := .valueError "User not found"

def foundUser : Option UserRow → Prog UserRow
  | none => throw userNotFound
  | some u => pure u

/-- The account is not to come back: its membership goes, and its place among the super admins. -/
def forget (tenantId : String) (wasSuperAdmin : Bool) (email : String) : Prog Unit := do
  ignoring (ControlPlaneRepository.removeUserTenantMap email tenantId)
  onlyIf (wasSuperAdmin = true) (ignoring (write fun w => w.removeSuperAdmin email))

def deleteTenantUser (tenantId : String) (targetUserId : UserRef) (requestingUserId : String)
    (userRole : List String) (authored : Bool) : Prog UserRow := do
  raiseIf ("super_admin" ∉ userRole ∧ "school_admin" ∉ userRole ∧ "admin" ∉ userRole)
    (.permissionError "Only school_admin or super_admin can delete users")
  openPool tenantId
  let found ← UserRepository.getUserById tenantId targetUserId
  let target ← foundUser found
  raiseIf (toString target.id = requestingUserId)
    (.permissionError "You cannot delete your own account")
  raiseIf ("super_admin" ∉ userRole ∧ target.isSuperAdmin = true)
    (.permissionError "school_admin cannot delete a super_admin account")
  let row ← UserRepository.deleteUser tenantId authored targetUserId
  let deleted ← foundUser row
  onlyIf (deleted.email ≠ "") (forget tenantId target.isSuperAdmin deleted.email)
  pure deleted

end TenantService

end Operations

end Sams.Auth
