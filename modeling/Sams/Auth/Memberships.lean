import Sams.Auth.CurrentUser

/-!
# Memberships

The lifecycle operations on `user_tenant_map` of `ControlPlaneRepository`: inviting, accepting,
declining, suspending, restoring and revoking a membership, and choosing the default school.
-/

namespace Sams.Auth

open Programs Rows

section Operations

variable [Unicode]

namespace World

/-- `INSERT … ON CONFLICT (identity_id, tenant_id) DO UPDATE … WHERE status IN ('revoked')`. -/
def inviteMembership (w : World) (identityId : Nat) (email tenantId role : String) : World :=
  if w.userTenantMap.any fun m => m.identityId = identityId ∧ m.tenantId = tenantId then
    { w with
      userTenantMap := updateWhere
        (fun m => m.identityId = identityId ∧ m.tenantId = tenantId ∧ m.status = .revoked)
        (fun m => { m with status := .invited, role := role }) w.userTenantMap }
  else
    { w with
      userTenantMap := w.userTenantMap ++ [
        { identityId := identityId, email := normalize email, tenantId := tenantId, role := role
          status := .invited, updatedAt := w.now, lastActiveAt := none, isDefault := false }] }

/-- Rewrite memberships. -/
def updateMap (w : World) (p : MembershipRow → Bool) (f : MembershipRow → MembershipRow) : World :=
  { w with userTenantMap := updateWhere p f w.userTenantMap }

end World

/-- The membership of an identity in a tenant. -/
def MembershipRow.isOf (identityId : Nat) (tenantId : String) (m : MembershipRow) : Bool :=
  m.identityId = identityId ∧ m.tenantId = tenantId

/-- The membership of an email in a tenant. -/
def MembershipRow.isAt (email tenantId : String) (m : MembershipRow) : Bool :=
  CiEq m.email (normalize email) ∧ m.tenantId = tenantId

def MembershipRow.withStatus (status : MembershipStatus) (m : MembershipRow) : MembershipRow :=
  { m with status := status }

def MembershipRow.withDefault (isDefault : Bool) (m : MembershipRow) : MembershipRow :=
  { m with isDefault := isDefault }

namespace ControlPlaneRepository

/-- An `UPDATE` of memberships. Does it end in `UPDATE 1`? -/
def updateMemberships (p : MembershipRow → Bool) (f : MembershipRow → MembershipRow) :
    Prog Bool := do
  let n ← ask fun w => w.userTenantMap.countP p
  write fun w => w.updateMap p f
  pure (n = 1)

def createInvitedMembership (identityId : Nat) (email tenantId role : String) : Prog Unit :=
  write fun w => w.inviteMembership identityId email tenantId role

def acceptMembership (identityId : Nat) (tenantId : String) : Prog Bool :=
  updateMemberships (fun m => m.isOf identityId tenantId ∧ m.status = .invited)
    (MembershipRow.withStatus .active)

/-- Declining deletes the row. -/
def declineMembership (identityId : Nat) (tenantId : String) : Prog Bool := do
  let n ← ask fun w =>
    w.userTenantMap.countP fun m => m.isOf identityId tenantId ∧ m.status = .invited
  write fun w =>
    { w with
      userTenantMap := w.userTenantMap.filter fun m =>
        ¬(m.isOf identityId tenantId ∧ m.status = .invited) }
  pure (n = 1)

/-- Every default of the identity is cleared before the new one is set. -/
def setDefaultMembership (identityId : Nat) (tenantId : String) : Prog Bool :=
  transaction do
    write fun w => w.updateMap (fun m => m.identityId = identityId)
      (MembershipRow.withDefault false)
    updateMemberships (fun m => m.isOf identityId tenantId ∧ m.status = .active)
      (MembershipRow.withDefault true)

def suspendMembership (email tenantId : String) : Prog Bool :=
  updateMemberships (fun m => m.isAt email tenantId ∧ m.status = .active)
    (MembershipRow.withStatus .suspended)

def restoreMembership (email tenantId : String) : Prog Bool :=
  updateMemberships (fun m => m.isAt email tenantId ∧ m.status = .suspended)
    (MembershipRow.withStatus .active)

def revokeMembership (email tenantId : String) : Prog Bool :=
  updateMemberships (fun m => m.isAt email tenantId ∧ m.status ≠ .revoked)
    (MembershipRow.withStatus .revoked)

/-- `remove_user_tenant_map`. -/
def removeUserTenantMap (email tenantId : String) : Prog Unit :=
  write fun w =>
    { w with userTenantMap := w.userTenantMap.filter fun m => ¬m.isAt email tenantId }

end ControlPlaneRepository

open ControlPlaneRepository

/-- The operations on memberships. -/
inductive MembershipOp where
  | invite (identityId : Nat) (email tenantId role : String)
  | accept (identityId : Nat) (tenantId : String)
  | decline (identityId : Nat) (tenantId : String)
  | setDefault (identityId : Nat) (tenantId : String)
  | suspend (email tenantId : String)
  | restore (email tenantId : String)
  | revoke (email tenantId : String)
  | upsert (email tenantId role : String)
  deriving DecidableEq, Repr

def MembershipOp.program : MembershipOp → Prog Unit
  | invite identityId email tenantId role => createInvitedMembership identityId email tenantId role
  | accept identityId tenantId => discard (acceptMembership identityId tenantId)
  | decline identityId tenantId => discard (declineMembership identityId tenantId)
  | setDefault identityId tenantId => discard (setDefaultMembership identityId tenantId)
  | suspend email tenantId => discard (suspendMembership email tenantId)
  | restore email tenantId => discard (restoreMembership email tenantId)
  | revoke email tenantId => discard (revokeMembership email tenantId)
  | upsert email tenantId role => (upsertUserTenantMap email tenantId role).seq

def MembershipOp.step (s : State) (op : MembershipOp) : State := after op.program s

end Operations

end Sams.Auth
