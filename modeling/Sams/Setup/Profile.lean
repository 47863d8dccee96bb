import Sams.Authz
import Sams.Lib.Parts
import Sams.School.Structure

/-!
# School information and the setup of a school

A school has one profile, campuses and contacts beside its academic structure. It is set up in three
stages: the profile is committed, the structure is saved, the school is activated, and activation
locks the curriculum system. A school that has a structure and was never activated is taken for one
that is older than the setup, and a look at its state or an ordinary request activates it.

The columns that nothing here reads are left out. So is the mirror in the control plane.
-/

namespace Sams.Setup

open School Programs Rows

/-! ## Rows -/

/-- The profile. The defaults are those of the schema. -/
structure ProfileRow where
  legalName : Option String := none
  displayName : Option String := none
  schoolCode : Option String := none
  country : Option String := none
  timezone : Option String := none
  currency : String := "JOD"
  profileCommittedAt : Option Timestamp := none
  structureCommittedAt : Option Timestamp := none
  curriculumLockedAt : Option Timestamp := none
  activatedAt : Option Timestamp := none
  deriving DecidableEq, Repr

/-- A row of `school_campus`. The name is required, though the column has no default. -/
structure CampusRow where
  id : Nat
  name : Option String
  isPrimary : Bool
  deriving DecidableEq, Repr

/-- A row of `school_contact`. -/
structure ContactRow where
  id : Nat
  roleTitle : String
  name : String
  phone : Option String
  email : Option String
  isEmergencyContact : Bool
  escalationOrder : Option Int
  visibleTo : List String
  deriving DecidableEq, Repr

/-- The tables of a tenant. Of the profiles only the first is ever read or written. -/
structure Tables where
  school : School.Tables
  profile : Option ProfileRow
  campuses : List CampusRow
  contacts : List ContactRow
  campusSeq : Nat
  contactSeq : Nat
  deriving DecidableEq, Repr

/-- What the schema declares. -/
@[mk_iff]
structure Tables.Ok (t : Tables) : Prop where
  school : t.school.Ok
  campus_key : Keyed CampusRow.id t.campuses
  campus_name : ∀ c ∈ t.campuses, c.name.isSome
  contact_key : Keyed ContactRow.id t.contacts
  contact_escalation : ∀ c ∈ t.contacts, ∀ n ∈ c.escalationOrder, Int4 n

instance : DecidablePred Tables.Ok := fun t => decidable_of_iff _ (Tables.ok_iff t).symm

/-- A tenant: tables that satisfy every constraint. -/
abbrev State := Checked Tables.Ok

/-- A program of the setup. -/
abbrev Program := EStateM PyError State

abbrev stmt (f : Tables → Tables) : Program Unit := exec .databaseError f

abbrev read {α : Type} (f : Tables → α) : Program α := query fun s => f s.val

/-! ## The school in its tenant -/

/-- The profile that a reader finds, who makes sure that there is one. -/
def Tables.current (t : Tables) : ProfileRow := t.profile.getD {}

/-- The school's tables. Whether the curriculum is locked stands in the profile. -/
def schoolOf (s : State) : Db where
  val := { s.val.school with curriculumLocked := s.val.current.curriculumLockedAt.isSome }
  ok := { s.ok.school with
    keys := { s.ok.school.keys with }, unique := { s.ok.school.unique with }
    checks := { s.ok.school.checks with }, placements := { s.ok.school.placements with }
    rollovers := { s.ok.school.rollovers with }, events := { s.ok.school.events with }
    contacts := { s.ok.school.contacts with } }

/-- The tenant with other school tables. -/
def putSchool (d : Db) (s : State) : State where
  val := { s.val with school := d.val }
  ok := { s.ok with school := d.ok }

/-- A program on the school's tables. -/
def onSchool {α : Type} (m : Prog α) : Program α := onPart schoolOf putSchool m

/-- An active level that has a class. -/
def hasStructure (t : School.Tables) : Bool :=
  t.levels.any fun l => l.isActive ∧ t.classes.any fun c => c.levelId = l.levelId

/-! ## The repository -/

/-- The fields of an update of the profile; those that are not given stay. -/
structure ProfileUpdate where
  legalName : Option String := none
  displayName : Option String := none
  schoolCode : Option String := none
  country : Option String := none
  timezone : Option String := none
  currency : Option String := none
  deriving DecidableEq, Repr

def ProfileUpdate.write (fields : ProfileUpdate) (p : ProfileRow) : ProfileRow :=
  { p with
    legalName := fields.legalName.or p.legalName
    displayName := fields.displayName.or p.displayName
    schoolCode := fields.schoolCode.or p.schoolCode
    country := fields.country.or p.country
    timezone := fields.timezone.or p.timezone
    currency := fields.currency.getD p.currency }

/-- The fields of a campus that were sent. -/
structure CampusFields where
  name : Option String := none
  isPrimary : Option Bool := none
  deriving DecidableEq, Repr

/-- The fields of a new contact. -/
structure ContactFields where
  roleTitle : String
  name : String
  phone : Option String := none
  email : Option String := none
  isEmergencyContact : Bool := false
  escalationOrder : Option Int := none
  visibleTo : List String := ["staff"]
  deriving DecidableEq, Repr

def ContactFields.row (fields : ContactFields) (id : Nat) : ContactRow where
  id := id
  roleTitle := fields.roleTitle
  name := fields.name
  phone := fields.phone
  email := fields.email
  isEmergencyContact := fields.isEmergencyContact
  escalationOrder := fields.escalationOrder
  visibleTo := fields.visibleTo

/-- The fields of an update of a contact; those that are not given stay. -/
structure ContactUpdate where
  roleTitle : Option String := none
  name : Option String := none
  phone : Option String := none
  email : Option String := none
  isEmergencyContact : Option Bool := none
  escalationOrder : Option Int := none
  visibleTo : Option (List String) := none
  deriving DecidableEq, Repr

def ContactUpdate.write (fields : ContactUpdate) (c : ContactRow) : ContactRow :=
  { c with
    roleTitle := fields.roleTitle.getD c.roleTitle
    name := fields.name.getD c.name
    phone := fields.phone.or c.phone
    email := fields.email.or c.email
    isEmergencyContact := fields.isEmergencyContact.getD c.isEmergencyContact
    escalationOrder := fields.escalationOrder.or c.escalationOrder
    visibleTo := fields.visibleTo.getD c.visibleTo }

/-- An emergency contact with a phone number. -/
def ContactRow.reachable (c : ContactRow) : Bool :=
  c.isEmergencyContact ∧ (Text.nonEmpty c.phone).isSome

def hasEmergencyContact (t : Tables) : Bool := t.contacts.any ContactRow.reachable

/-- A payment, a priced resource, or a ticket price other than zero. -/
def hasRecordedMoney (t : School.Tables) : Bool :=
  t.payments ≠ [] ∨ t.resourceCosts ≠ [] ∨ t.eventClasses.any fun m => m.ticketPrice ≠ 0

namespace SchoolRepository

def ensureProfileRow : Program ProfileRow := do
  match ← read Tables.profile with
  | some row => return row
  | none =>
    stmt fun t => { t with profile := some {} }
    return {}

/-- Rewrite the profile. -/
def writeProfile (f : ProfileRow → ProfileRow) : Program Unit :=
  stmt fun t => { t with profile := t.profile.map f }

def updateProfile (fields : ProfileUpdate) : Program ProfileRow := do
  let row ← ensureProfileRow
  writeProfile fields.write
  return fields.write row

def stampProfileCommitted (now : Timestamp) : Program Unit :=
  writeProfile fun p => { p with profileCommittedAt := some now }

def activate (now : Timestamp) : Program Unit :=
  writeProfile fun p =>
    { p with
      activatedAt := some now, curriculumLockedAt := some now
      structureCommittedAt := some (p.structureCommittedAt.getD now) }

/-- `UPDATE … WHERE … AND activated_at IS NULL`. -/
def grandfatherActivateIfMissing (now : Timestamp) : Program Unit :=
  writeProfile fun p =>
    if p.activatedAt = none then
      { p with
        activatedAt := some now, curriculumLockedAt := some now
        profileCommittedAt := some (p.profileCommittedAt.getD now)
        structureCommittedAt := some (p.structureCommittedAt.getD now) }
    else p

/-- `SELECT id FROM school_campus WHERE is_primary = TRUE ORDER BY id ASC LIMIT 1`. -/
def primaryCampus (t : Tables) : Option Nat :=
  ((t.campuses.filter CampusRow.isPrimary).map CampusRow.id).min?

/-- Update the primary campus, or insert it; an insert that was sent `is_primary` names the column
twice, which the database refuses. -/
def upsertPrimaryCampus (fields : CampusFields) : Program Unit := do
  match Text.nonZero (← read primaryCampus) with
  | some id =>
    stmt fun t => { t with
      campuses := updateWhere (fun c => c.id = id)
        (fun c =>
          { c with name := fields.name.or c.name, isPrimary := fields.isPrimary.getD c.isPrimary })
        t.campuses }
  | none =>
    raiseIf fields.isPrimary.isSome .databaseError
    stmt fun t =>
      { t with
        campuses := t.campuses ++ [{ id := t.campusSeq, name := fields.name, isPrimary := true }]
        campusSeq := t.campusSeq + 1 }

def createContact (fields : ContactFields) : Program Unit :=
  stmt fun t =>
    { t with contacts := t.contacts ++ [fields.row t.contactSeq], contactSeq := t.contactSeq + 1 }

/-- Is there such a contact after the update? -/
def updateContact (contactId : Nat) (fields : ContactUpdate) : Program Bool := do
  stmt fun t => { t with
    contacts := updateWhere (fun c => c.id = contactId) fields.write t.contacts }
  read fun t => t.contacts.any fun c => c.id = contactId

def contactNotFound (contactId : Nat) : PyError :=
  .valueError ("Contact " ++ toString contactId ++ " not found")

def deleteContact (contactId : Nat) : Program Unit := do
  let found ← read fun t => t.contacts.any fun c => c.id = contactId
  stmt fun t => { t with contacts := t.contacts.filter fun c => c.id ≠ contactId }
  raiseIf (¬found) (contactNotFound contactId)

end SchoolRepository

/-! ## The service -/

/-- The required fields of a profile under their labels, in the order of the check. -/
def ProfileRow.required (p : ProfileRow) : List (String × Option String) :=
  [("Legal Name", p.legalName), ("Display Name", p.displayName), ("School Code", p.schoolCode),
   ("Country (School Identity step, not the Campus address)", p.country),
   ("Time Zone", p.timezone), ("Currency", some p.currency)]

/-- The labels of the required fields that are absent or empty. -/
def ProfileRow.missing (p : ProfileRow) : List String :=
  (p.required.filter fun f => Text.nonEmpty f.2 = none).map Prod.fst

/-- What `get_setup_state` answers. -/
structure SetupState where
  isLive : Bool
  profileCommitted : Bool
  hasPrimaryCampus : Bool
  hasEmergencyContact : Bool
  structureCommitted : Bool
  blocking : List String
  activatedAt : Option Timestamp
  deriving DecidableEq, Repr

/-- What is still missing before the school can be activated. -/
def blocking (t : Tables) : List String :=
  (if t.current.profileCommittedAt = none then ["Complete School Information (Stage 1)."]
    else []) ++
  (if ¬t.campuses.any CampusRow.isPrimary then ["Add the primary campus address."] else []) ++
  (if ¬hasEmergencyContact t then
    ["Add at least one emergency contact with a phone number."] else []) ++
  (if ¬hasStructure t.school then
    ["Configure the curriculum system, grades, and at least one class section."] else [])

/-- The answer for a state. -/
def setupState (t : Tables) : SetupState where
  isLive := t.current.activatedAt.isSome
  profileCommitted := t.current.profileCommittedAt.isSome
  hasPrimaryCampus := t.campuses.any CampusRow.isPrimary
  hasEmergencyContact := hasEmergencyContact t
  structureCommitted := hasStructure t.school
  blocking := if t.current.activatedAt.isSome then [] else blocking t
  activatedAt := t.current.activatedAt

namespace SchoolService

open SchoolRepository

def adminRoles : List String := ["school_admin", "super_admin", "admin"]

/-- A strict membership check: no permission stands for a role. -/
def IsAdmin (userRole : List String) : Prop := ∃ r ∈ userRole, r ∈ adminRoles

instance (userRole : List String) : Decidable (IsAdmin userRole) :=
  inferInstanceAs (Decidable (∃ r ∈ userRole, r ∈ adminRoles))

def requireAdmin (userRole : List String) : Program Unit :=
  raiseIf (¬IsAdmin userRole)
    (.permissionError "Only school_admin or super_admin can manage school setup.")

def getSetupState (now : Timestamp) : Program SetupState := do
  let profile ← ensureProfileRow
  let structured ← read fun t => hasStructure t.school
  onlyIf (profile.activatedAt = none ∧ structured) (grandfatherActivateIfMissing now)
  read setupState

/-- The currency is to be another one. -/
def ChangesCurrency (fields : ProfileUpdate) (p : ProfileRow) : Prop :=
  ∃ c, fields.currency = some c ∧ c ≠ p.currency

instance (fields : ProfileUpdate) (p : ProfileRow) : Decidable (ChangesCurrency fields p) :=
  decidable_of_iff (∃ c ∈ fields.currency, c ≠ p.currency) Iff.rfl

/-- The school code is to be another one; the two are compared as Python shows them. -/
def ChangesCode (fields : ProfileUpdate) (p : ProfileRow) : Prop :=
  ∃ c, fields.schoolCode = some c ∧ c ≠ Text.showOption p.schoolCode

instance (fields : ProfileUpdate) (p : ProfileRow) : Decidable (ChangesCode fields p) :=
  decidable_of_iff (∃ c ∈ fields.schoolCode, c ≠ Text.showOption p.schoolCode) Iff.rfl

/-- The checks on an update of the profile of a school that is live. -/
def checkUpdate (fields : ProfileUpdate) (current : ProfileRow) (userRole : List String) :
    Program Unit := do
  raiseIf (ChangesCode fields current)
    (.permissionError "'school_code' is immutable after the school has been activated.")
  raiseIf (ChangesCurrency fields current ∧ "super_admin" ∉ userRole)
    (.permissionError "'currency' can only be changed after activation by a super_admin.")
  let money ← read fun t => hasRecordedMoney t.school
  raiseIf (ChangesCurrency fields current ∧ money)
    (.permissionError ("'currency' is immutable once payments, resource costs, or ticket " ++
      "prices have been recorded."))

def updateProfile (fields : ProfileUpdate) (userRole : List String) : Program ProfileRow := do
  requireAdmin userRole
  let current ← ensureProfileRow
  onlyIf current.activatedAt.isSome (checkUpdate fields current userRole)
  if fields = {} then
    return current
  SchoolRepository.updateProfile fields

def upsertCampus (fields : CampusFields) (userRole : List String) : Program Unit := do
  requireAdmin userRole
  upsertPrimaryCampus fields

def createContact (fields : ContactFields) (userRole : List String) : Program Unit := do
  requireAdmin userRole
  SchoolRepository.createContact fields

def updateContact (contactId : Nat) (fields : ContactUpdate) (userRole : List String) :
    Program Unit := do
  requireAdmin userRole
  let found ← SchoolRepository.updateContact contactId fields
  raiseIf (¬found) (contactNotFound contactId)

def deleteContact (contactId : Nat) (userRole : List String) : Program Unit := do
  requireAdmin userRole
  SchoolRepository.deleteContact contactId

def commitProfile (userRole : List String) (now : Timestamp) : Program Unit := do
  requireAdmin userRole
  let profile ← ensureProfileRow
  raiseIf profile.profileCommittedAt.isSome
    (.valueError "School Information is already committed and cannot be re-submitted.")
  raiseIf (profile.missing ≠ [])
    (.valueError ("Missing required school information: " ++ ", ".intercalate profile.missing))
  raiseIf ((← read Tables.campuses) = [])
    (.valueError "Add at least one campus address before continuing.")
  raiseIf (¬(← read hasEmergencyContact))
    (.valueError "Add at least one emergency contact with a phone number before continuing.")
  stampProfileCommitted now

def activate (userRole : List String) (now : Timestamp) : Program Unit := do
  requireAdmin userRole
  let profile ← ensureProfileRow
  raiseIf profile.activatedAt.isSome
    (.valueError "School is already activated; activation cannot be repeated or undone.")
  raiseIf (profile.profileCommittedAt = none)
    (.valueError "Complete School Information before activating.")
  raiseIf (¬(← read fun t => hasStructure t.school))
    (.valueError ("Configure the curriculum system, grades, and at least one class section " ++
      "before activating."))
  SchoolRepository.activate now

end SchoolService

/-! ## The gate of ordinary requests -/

/-- A school in setup is closed to all but super admins; one that has a structure is activated. -/
def requireTenantLive (user : Authz.CurrentUser) (now : Timestamp) : Program Unit := do
  if user.hasRole "super_admin" ∨ Text.nonEmpty user.tenantId = none then
    return ()
  let activatedAt ← read fun t => t.profile.bind ProfileRow.activatedAt
  let structured ← read fun t => hasStructure t.school
  onlyIf (activatedAt = none ∧ structured) (SchoolRepository.grandfatherActivateIfMissing now)
  raiseIf (activatedAt = none ∧ ¬structured)
    (.httpException 403 "Complete school setup before performing this action")

end Sams.Setup
