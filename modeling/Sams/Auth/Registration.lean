import Sams.Auth.Actions
import Sams.Auth.CurrentUser

/-!
# Invitations and registration

Both endpoints that invite, and `register_user`: what an invitation code resolves to, what is
checked of it, and the three kinds of account it opens. Registration is a `Task`, one action for
each statement; its last statement counts the use of the invitation.

The profile rows that go with a new user are left out, but for what decides whether a student's
registration creates a head teacher (`Academics`). Provisioning in the single sign-on succeeds, or
fails with an error that the request is given (`InvitationCreateRequest.provisioning`).
-/

namespace Sams.Auth

open Programs Rows Interleaving

/-- What registration takes from its configuration, and the random part of a code. -/
class Settings where
  /-- `SUPER_ADMIN_ALLOWED_EMAIL`. -/
  superAdminAllowedEmail : String
  /-- `SUPER_ADMIN_BOOTSTRAP_CODE`. -/
  superAdminBootstrapCode : String
  /-- `TEACHER_INVITE_CODE`. -/
  teacherInviteCode : String
  /-- `secrets.token_hex(4).upper()`: the digits drawn under a number. -/
  tokenHex : Nat → String

/-- The defaults of the configuration. -/
@[reducible] def defaults : Settings where
  superAdminAllowedEmail := "sa@desk.com"
  superAdminBootstrapCode := "sd-platform-bootstrap-2026"
  teacherInviteCode := "regester123"
  tokenHex n := String.ofList (List.replicate n '0')

/-- What a school has of the rows that a student's profile refers to. -/
structure Academics where
  hasClass : Bool
  hasTeacher : Bool
  deriving DecidableEq, Repr

/-- The body of a registration. -/
structure UserRegisterRequest where
  email : String
  password : String
  tenantId : Option String
  role : Option String
  inviteCode : Option String
  deriving DecidableEq, Repr

/-- The body of `POST /auth/invitations`. -/
structure CreateInvitationRequest where
  tenantId : String
  role : String
  targetEmail : Option String
  maxUses : Int
  validDays : Int
  deriving DecidableEq, Repr

/-- The body of `POST /invitations`, and the error that the provisioning ends with, if it fails. -/
structure InvitationCreateRequest where
  email : String
  tenantId : String
  role : String
  provisioning : Option PyError
  deriving DecidableEq, Repr

/-- What a code resolves to, from either table. -/
structure Invitation where
  code : String
  tenantId : String
  role : String
  targetEmail : Option String
  maxUses : Int
  usesCount : Int
  expiresAt : Option Nat
  isActive : Bool
  deriving DecidableEq, Repr

def InvitationRow.toInvitation (i : InvitationRow) : Invitation where
  code := i.code
  tenantId := i.tenantId
  role := i.role
  targetEmail := i.targetEmail
  maxUses := i.maxUses
  usesCount := i.usesCount
  expiresAt := some i.expiresAt
  isActive := i.isActive

/-- A row of `user_invitations` never expires, and counts no uses. -/
def UserInvitationRow.toInvitation (code : String) (i : UserInvitationRow) : Invitation where
  code := code
  tenantId := i.tenantId
  role := i.role
  targetEmail := some i.email
  maxUses := 1
  usesCount := 0
  expiresAt := none
  isActive := true

section Tables

variable [Unicode] [Platform]

/-- `UPPER(code) = UPPER($1) OR UPPER(target_email) = UPPER($1) OR id::text = $1`. -/
def InvitationRow.isFor (code : String) (i : InvitationRow) : Bool :=
  UpperEq i.code code ∨ i.targetEmail.any (fun e => UpperEq e code) ∨ Platform.uuidText i.id = code

/-- `(id::text = $1 OR UPPER(email) = UPPER($1) OR $1 LIKE 'INV-%') AND status = 'pending'`. -/
def UserInvitationRow.isFor (code : String) (i : UserInvitationRow) : Bool :=
  (Platform.uuidText i.id = code ∨ UpperEq i.email code ∨ Text.startsWith code "INV-") ∧
    i.status = "pending"

namespace World

variable (w : World)

def invitationByCode (code : String) : Option InvitationRow :=
  w.invitations.find? fun i => i.isFor (Text.strip code)

/-- `ORDER BY created_at DESC LIMIT 1`, over the pending rows that the code is for. -/
def pendingInvitation (code : String) : Option UserInvitationRow :=
  ((w.userInvitations.filter fun i => i.isFor code).insertionSort fun i j =>
    j.createdAt ≤ i.createdAt).head?

/-- `increment_invitation_uses`. -/
def countUse (code : String) : World :=
  { w with
    invitations := updateWhere (fun i => i.isFor (Text.strip code))
      (fun i =>
        { i with
          usesCount := i.usesCount + 1
          isActive := if i.maxUses ≤ i.usesCount + 1 then false else i.isActive })
      w.invitations }

/-- `INSERT INTO super_admins …`, with an identifier that is drawn. -/
def addSuperAdmin (email hash : String) : World :=
  { w with superAdmins := w.superAdmins ++ [⟨w.seq, email, hash⟩], seq := w.seq + 1 }

/-- `INSERT INTO parent_tenant_links … ON CONFLICT DO NOTHING`. -/
def addParentTenantLink (parentId : Nat) (tenantId : String) : World :=
  if w.linked parentId tenantId then w
  else { w with parentTenantLinks := w.parentTenantLinks ++ [⟨parentId, tenantId, w.now⟩] }

end World

namespace ControlPlaneRepository

def getInvitationByCode (code : String) : Task (Option InvitationRow) :=
  read fun w => w.invitationByCode code

def incrementInvitationUses (code : String) : Task Unit := stmt fun w => w.countUse code

def createSuperAdmin (email hash : String) : Task Nat :=
  .once do
    let id ← query fun s => s.val.seq
    exec .databaseError fun w => w.addSuperAdmin email hash
    pure id

def createParent (email hash : String) : Task Nat :=
  .once do
    let id ← query fun s => s.val.seq
    exec .databaseError fun w =>
      { w with parents := w.parents ++ [⟨id, email, hash⟩], seq := w.seq + 1 }
    pure id

def addParentTenantLink (parentId : Nat) (tenantId : String) : Task Unit :=
  stmt fun w => w.addParentTenantLink parentId tenantId

def createInvitation [Settings] (code tenantId role : String) (targetEmail : Option String)
    (maxUses : Int) (expiresAt : Nat) : Prog Unit :=
  write fun w =>
    { w with
      invitations := w.invitations ++ [
        { id := w.seq, code := code, tenantId := tenantId, role := role, targetEmail := targetEmail
          maxUses := maxUses, usesCount := 0, expiresAt := expiresAt, createdAt := w.now
          isActive := true }]
      seq := w.seq + 1 }

end ControlPlaneRepository

namespace InvitationRepository

def createInvitationRecord (email tenantId role : String) : Prog Unit :=
  write fun w =>
    { w with
      userInvitations := w.userInvitations ++ [
        { id := w.seq, email := normalize email, tenantId := Text.strip tenantId
          role := Text.strip role, status := "pending", createdAt := w.now }]
      seq := w.seq + 1 }

def getInvitationByEmail (email tenantId : String) : Prog (Option UserInvitationRow) :=
  ask fun w => w.userInvitations.find? fun i =>
    CiEq i.email (normalize email) ∧ i.tenantId = Text.strip tenantId ∧ i.status = "pending"

/-- Its own copy of the upsert: it strips the school and the role, and leaves the cache alone. -/
def upsertUserTenantMap (email tenantId role : String) : Prog Unit := do
  let identity ← (ControlPlaneRepository.getOrCreateIdentity email).seq
  write fun w =>
    w.upsertMembership identity.id (normalize email) (Text.strip tenantId) (Text.strip role)

end InvitationRepository

end Tables

/-! ## Inviting -/

section Inviting

variable [Unicode] [Platform]

def foreignSchool (action own tenantId : String) : PyError :=
  .httpException 403
    s!"Admins of tenant \x27{own}\x27 cannot {action} for tenant \x27{tenantId}\x27"

/-- The school that a caller invites to: their own, unless they are a super admin. -/
def invitedSchool (action : String) (user : Authz.CurrentUser) (isSuper : Bool)
    (tenantId : String) :
    Prog String :=
  if isSuper then pure tenantId
  else match Text.nonEmpty user.tenantId with
    | none => pure tenantId
    | some own => do
      raiseIf (tenantId ≠ "" ∧ normalize tenantId ≠ normalize own)
        (foreignSchool action own tenantId)
      pure own

/-- `AuthService.create_invitation`. -/
def AuthService.createInvitation [Settings] (r : CreateInvitationRequest) (tenantId : String) :
    Prog Unit := do
  let n ← (draw).seq
  let now ← ask World.now
  ControlPlaneRepository.createInvitation
    s!"INV-{Unicode.upper tenantId}-{Unicode.upper r.role}-{Settings.tokenHex n}" tenantId r.role
    ((Text.nonEmpty r.targetEmail).map normalize) r.maxUses (now + r.validDays * 86400 : Int).toNat

/-- The role itself, or among the roles. -/
def isSuperByName (user : Authz.CurrentUser) : Bool :=
  user.role = "super_admin" ∨ "super_admin" ∈ user.roles

/-- `POST /auth/invitations`. -/
def createInvitation [Settings] (user : Authz.CurrentUser) (r : CreateInvitationRequest) :
    Prog Unit := do
  raiseIf (user.role ∉ ["school_admin", "super_admin"] ∧ "school_admin" ∉ user.roles ∧
      "super_admin" ∉ user.roles)
    (.httpException 403 "Only school_admin or super_admin can create invitations")
  raiseIf (r.role = "super_admin" ∧ isSuperByName user = false)
    (.httpException 403 "Only a super_admin can create a super_admin invitation")
  let tenantId ← invitedSchool "create invitations" user (isSuperByName user) r.tenantId
  AuthService.createInvitation r tenantId

/-- `InvitationService.send_user_invitation`. -/
def sendUserInvitation (r : InvitationCreateRequest) (tenantId : String) : Prog Unit := do
  let existing ← InvitationRepository.getInvitationByEmail r.email tenantId
  raiseIf existing.isSome (.valueError
    s!"A pending invitation already exists for {r.email} under tenant {tenantId}")
  r.provisioning.elim (pure ()) throw
  InvitationRepository.createInvitationRecord r.email tenantId r.role
  InvitationRepository.upsertUserTenantMap r.email tenantId r.role

/-- `POST /invitations`. -/
def inviteUser (user : Authz.CurrentUser) (r : InvitationCreateRequest) : Prog Unit := do
  raiseIf ((user.hasRole "school_admin" || user.hasRole "super_admin" ||
      user.hasRole "user:invite") = false)
    (.httpException 403 ("Only school_admin, super_admin, or users with user:invite permission " ++
      "can send invitations"))
  raiseIf (r.role = "super_admin" ∧ user.hasRole "super_admin" = false)
    (.httpException 403 "Only a super_admin can invite a user as super_admin")
  let tenantId ←
    invitedSchool "send invitations" user (user.hasRole "super_admin") r.tenantId
  sendUserInvitation r tenantId

end Inviting

/-! ## Registering -/

/-- The one email that may become a super admin. -/
def IsOperator [Unicode] [Settings] (email : String) : Prop :=
  normalize email = normalize Settings.superAdminAllowedEmail

instance [Unicode] [Settings] : DecidablePred IsOperator := fun email =>
  inferInstanceAs (Decidable (normalize email = _))

/-- Who registers, after the invitation was read. -/
structure Registrant where
  email : String
  password : String
  role : String
  tenantId : Option String
  code : String
  invitation : Option Invitation
  deriving DecidableEq, Repr

namespace AuthService

open ControlPlaneRepository UserRepository

/-- The passphrases that stand in for an invitation. -/
def fallbackCodes : List String :=
  ["school-staff-2026", "regester123", "register123", "teacher-pass-2026"]

section Codes

variable [Unicode]

/-- The bootstrap code is one for the role of a super admin alone. -/
def isRecognized [Settings] (role code : String) : Bool :=
  Text.lower code ∈ fallbackCodes ∨
    role = "super_admin" ∧ code = Settings.superAdminBootstrapCode

/-- The passphrases of the staff. -/
def validCodes [Settings] : List String :=
  [Settings.teacherInviteCode, "regester123", "register123", "SCHOOL-STAFF-2026"]

/-- The school and the role are those of the invitation. -/
def lockedTo (i : Invitation) (r : Registrant) : Registrant :=
  { r with
    tenantId := if i.tenantId = "" then r.tenantId else some (normalize i.tenantId)
    role := if i.role = "" then r.role else normalize i.role
    invitation := some i }

/-- What the invitation says of an email, if it is for one. -/
def reservedFor (i : Invitation) (email : String) : Option PyError :=
  match Text.nonEmpty i.targetEmail with
  | none => none
  | some target =>
    if normalize target = normalize email then none
    else some (.valueError s!"Invitation code is strictly reserved for email: {target}")

end Codes

variable [Unicode] [Platform]

/-- The invitation of a code: a row of `invitations`, else a pending one of `user_invitations`. -/
def invitationOf (code : String) : Task (Option Invitation) := do
  let row ← getInvitationByCode code
  match row with
  | some i => pure (some i.toInvitation)
  | none => do
    let pending ← read fun w => w.pendingInvitation code
    pure (pending.map (UserInvitationRow.toInvitation code))

def checkInvitation (i : Invitation) (email : String) : Task Unit := do
  .failIf (i.isActive = false)
    (.valueError "Invitation code is inactive or has already been used")
  let now ← clock
  .failIf (i.expiresAt.any (· < now)) (.valueError "Invitation code has expired")
  .failIf (i.maxUses ≤ i.usesCount) (.valueError "Invitation code max uses reached")
  (reservedFor i email).elim (pure ()) .fail

/-- The use of an invitation is counted when the account is there. -/
def recordUse : Option Invitation → Task Unit
  | none => pure ()
  | some i => incrementInvitationUses i.code

variable [Settings]

/-- From the code to what it allows. -/
def accept (r : Registrant) : Task Registrant := do
  let found ← invitationOf r.code
  match found with
  | none => do
    .failIf (isRecognized r.role r.code = false)
      (.valueError "Invalid or unrecognized invitation code")
    pure r
  | some i => do
    checkInvitation i r.email
    pure (lockedTo i r)

/-- The platform has one operator, whoever invites and whatever the code is. -/
def registerSuperAdmin (r : Registrant) (hash : String) : Task AccessToken := do
  .failIf (¬IsOperator r.email) (.permissionError
    ("super_admin registration is restricted to the platform\x27s single " ++
      "designated operator account."))
  .failIf (r.invitation = none ∧ r.code ≠ Settings.superAdminBootstrapCode) (.permissionError
    ("super_admin accounts require the dedicated platform bootstrap code, " ++
      "not a staff self-registration passphrase."))
  let existing ← getSuperAdminByEmail r.email
  .failIf existing.isSome (.valueError "Email already registered")
  let userId ← createSuperAdmin r.email hash
  recordUse r.invitation
  createAccessToken userId "" "super_admin" r.email [] none

/-- The global parent, who must know the password of an account that is there. -/
def globalParent (r : Registrant) (hash : String) : Option ParentRow → Task Nat
  | some p => do
    .failIf (Platform.verifyPassword r.password p.passwordHash = false)
      (.valueError "Email already registered with a different password")
    pure p.id
  | none => createParent r.email hash

def localParentOf (r : Registrant) (tenantId hash : String) : Option UserRow → Task Nat
  | some user => pure user.id
  | none => createUser tenantId r.email hash "parent"

def registerParent (r : Registrant) (hash : String) : Option String → Task AccessToken
  | none => .fail (.valueError "Tenant ID is required for parent registration")
  | some tenantId => do
    let row ← getParentByEmail r.email
    let parentId ← globalParent r hash row
    addParentTenantLink parentId tenantId
    getDbPool tenantId
    let localUser ← getUserByEmail tenantId r.email
    let userId ← localParentOf r tenantId hash localUser
    upsertUserTenantMap r.email tenantId "parent"
    recordUse r.invitation
    createAccessToken userId tenantId "parent" r.email [] none

/-- The first student of a school without classes and teachers brings a head teacher along. -/
def ensureHeadTeacher (role tenantId : String) (school : Academics) : Task Unit :=
  if role ≠ "student" ∨ school.hasClass ∨ school.hasTeacher then pure ()
  else do
    let hash ← hashPassword "password"
    let _ ← createUser tenantId s!"teacher_{tenantId}@school.com" hash "teacher"
    pure ()

def registerSchoolUser (r : Registrant) (hash : String) (school : Academics) :
    Option String → Task AccessToken
  | none => .fail (.valueError "Tenant ID is required for school users")
  | some tenantId => do
    .failIf (r.role = "school_admin" ∧ r.invitation = none) (.permissionError
      ("A school_admin account can only be created from a real invitation issued by " ++
        "a super_admin or an existing school_admin for this tenant."))
    .failIf (r.invitation = none ∧ r.role ∈ ["teacher", "manager", "event_teacher"] ∧
      r.code ∉ validCodes) (.permissionError "Invalid or missing registration pass")
    getDbPool tenantId
    let existing ← getUserByEmail tenantId r.email
    .failIf existing.isSome (.valueError "Email already registered")
    let userId ← createUser tenantId r.email hash r.role
    ensureHeadTeacher r.role tenantId school
    upsertUserTenantMap r.email tenantId r.role
    recordUse r.invitation
    createAccessToken userId tenantId r.role r.email [] none

/-- The account that the role asks for. -/
def openAccount (r : Registrant) (hash : String) (school : Academics) : Task AccessToken :=
  if r.role = "super_admin" then registerSuperAdmin r hash
  else if r.role = "parent" then registerParent r hash (Text.nonEmpty r.tenantId)
  else if r.role ∈ ["school_admin", "teacher", "student", "manager", "event_teacher"] then
    registerSchoolUser r hash school (Text.nonEmpty r.tenantId)
  else .fail (.valueError s!"Invalid registration role: {r.role}")

def registerUser (email password role : String) (tenantId inviteCode : Option String)
    (school : Academics) : Task AccessToken := do
  let code := Text.strip (inviteCode.getD "")
  .failIf (code = "") (.valueError "Invitation code is required for registration")
  let r ← accept ⟨email, password, role, tenantId, code, none⟩
  let hash ← hashPassword password
  openAccount r hash school

end AuthService

/-- `POST /auth/register`. -/
def register [Unicode] [Platform] [Settings] (payload : UserRegisterRequest) (school : Academics) :
    Task AccessToken := do
  let role := (Text.nonEmpty payload.role).getD "student"
  .failIf (Text.nonEmpty payload.tenantId = none ∧ Text.nonEmpty payload.inviteCode = none ∧
      role ≠ "super_admin")
    (.httpException 400 "An invitation code or an explicit tenant_id is required to register.")
  AuthService.registerUser payload.email payload.password role
    (if role = "super_admin" then none else payload.tenantId) payload.inviteCode school

/-! ## What a registration does -/

section Parts

variable [Unicode] [Settings] {P : ∀ ⦃α : Type⦄, Task α → Prop}

open AuthService ControlPlaneRepository UserRepository

/-- A property of programs that composition keeps, and that the actions of a registration have. Only
the operator is made a super admin. -/
structure Registers [Platform] (P : ∀ ⦃α : Type⦄, Task α → Prop) : Prop extends HandlesQuiet P where
  createSuperAdmin : ∀ email hash, IsOperator email → P (createSuperAdmin email hash)
  createParent : ∀ email hash, P (createParent email hash)
  addParentTenantLink : ∀ parentId tenantId, P (addParentTenantLink parentId tenantId)
  incrementInvitationUses : ∀ code, P (incrementInvitationUses code)

namespace Registers

variable [Platform] (h : Registers P)

include h

theorem recordUse (invitation : Option Invitation) : P (recordUse invitation) := by
  cases invitation with
  | none => exact h.ret _
  | some i => exact h.incrementInvitationUses i.code

theorem accept (r : Registrant) : P (accept r) := by
  have hfound : P (invitationOf r.code) := by
    refine h.bind (h.look _) fun row => ?_
    cases row with
    | none => exact h.bind (h.look _) fun _ => h.ret _
    | some i => exact h.ret _
  refine h.bind hfound fun found => ?_
  cases found with
  | none => exact h.bind (h.failIf _ _) fun _ => h.ret _
  | some i =>
    refine h.bind ?_ fun _ => h.ret _
    refine h.bind (h.failIf _ _) fun _ => h.bind (h.look _) fun _ =>
      h.bind (h.failIf _ _) fun _ => ?_
    refine h.bind (h.failIf _ _) fun _ => ?_
    cases reservedFor i r.email with
    | none => exact h.ret _
    | some e => exact h.fail _

theorem registerSuperAdmin (r : Registrant) (hash : String) : P (registerSuperAdmin r hash) := by
  refine h.failIf_bind fun hoperator => h.bind (h.failIf _ _) fun _ => h.bind (h.look _) fun _ => ?_
  refine h.bind (h.failIf _ _) fun _ =>
    h.bind (h.createSuperAdmin _ _ (not_not.1 hoperator)) fun _ => ?_
  exact h.bind (h.recordUse _) fun _ => h.createAccessToken _ _ _ _ _ _

theorem registerParent (r : Registrant) (hash : String) (tenantId : Option String) :
    P (registerParent r hash tenantId) := by
  cases tenantId with
  | none => exact h.fail _
  | some tenantId =>
    refine h.bind (h.look _) fun row => h.bind ?_ fun parentId => ?_
    · cases row with
      | none => exact h.createParent _ _
      | some p => exact h.bind (h.failIf _ _) fun _ => h.ret _
    · refine h.bind (h.addParentTenantLink _ _) fun _ => h.bind (h.getDbPool _) fun _ => ?_
      refine h.bind (h.look _) fun localUser => h.bind ?_ fun _ => ?_
      · cases localUser with
        | none => exact h.createUser _ _ _ _
        | some user => exact h.ret _
      · refine h.bind (h.upsertUserTenantMap _ _ _) fun _ => h.bind (h.recordUse _) fun _ => ?_
        exact h.createAccessToken _ _ _ _ _ _

theorem registerSchoolUser (r : Registrant) (hash : String) (school : Academics)
    (tenantId : Option String) : P (registerSchoolUser r hash school tenantId) := by
  cases tenantId with
  | none => exact h.fail _
  | some tenantId =>
    refine h.bind (h.failIf _ _) fun _ => h.bind (h.failIf _ _) fun _ =>
      h.bind (h.getDbPool _) fun _ => ?_
    refine h.bind (h.look _) fun _ => h.bind (h.failIf _ _) fun _ =>
      h.bind (h.createUser _ _ _ _) fun _ => ?_
    refine h.bind ?_ fun _ => h.bind (h.upsertUserTenantMap _ _ _) fun _ =>
      h.bind (h.recordUse _) fun _ =>
      h.createAccessToken _ _ _ _ _ _
    unfold ensureHeadTeacher
    split_ifs
    · exact h.ret _
    · exact h.bind (h.hashPassword _) fun _ => h.bind (h.createUser _ _ _ _) fun _ => h.ret _

theorem openAccount (r : Registrant) (hash : String) (school : Academics) :
    P (openAccount r hash school) := by
  unfold AuthService.openAccount
  split_ifs
  · exact h.registerSuperAdmin r hash
  · exact h.registerParent r hash _
  · exact h.registerSchoolUser r hash school _
  · exact h.fail _

/-- **Every registration** has the property. -/
theorem register (payload : UserRegisterRequest) (school : Academics) :
    P (register payload school) := by
  refine h.bind (h.failIf _ _) fun _ => h.bind (h.failIf _ _) fun _ =>
    h.bind (h.accept _) fun r => ?_
  exact h.bind (h.hashPassword _) fun hash => h.openAccount r hash school

end Registers

end Parts

end Sams.Auth
