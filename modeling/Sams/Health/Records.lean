import Sams.Auth.Policy

/-!
# Health records

The record of a student holds three values, each encrypted for itself. Staff write it; an
administrator with clearance is to read the values, and everyone else who may look is shown a mask.

The full view is for callers whose role is the text `school_admin`, and the route hands
the list of roles over.
-/

namespace Sams.Health

open Programs Rows Authz

/-! ## Encryption -/

/-- `Fernet`, with the key of the deployment. The first argument is what an encryption draws. -/
class Fernet where
  encrypt : Nat → ByteArray → String
  decrypt : String → Option ByteArray

/-- Decryption inverts encryption. -/
class LawfulFernet [Fernet] : Prop where
  decrypt_encrypt : ∀ draw b, Fernet.decrypt (Fernet.encrypt draw b) = some b

section Crypt

variable [Fernet]

/-- `_encrypt`. -/
def encrypt (draw : Nat) (val : String) : String := Fernet.encrypt draw val.toUTF8

/-- `_decrypt`. -/
def decrypt (val : String) : Option String := (Fernet.decrypt val).bind String.fromUTF8?

theorem decrypt_encrypt [LawfulFernet] (draw : Nat) (val : String) :
    decrypt (encrypt draw val) = some val := by
  unfold decrypt encrypt
  rw [LawfulFernet.decrypt_encrypt, Option.bind_some]
  unfold String.fromUTF8?
  rw [dif_pos (show val.toUTF8.IsValidUTF8 from val.isValidUTF8)]
  rfl

end Crypt

/-! ## Masks -/

/-- `val[-n:]`, of a text that is not shorter. -/
def lastChars (n : Nat) (val : String) : String := String.ofList (val.toList.drop (val.length - n))

/-- `_mask_field`. -/
def maskField (val fieldName : String) : String :=
  if val = "" then ""
  else if fieldName = "national_id" then
    if 4 ≤ val.length then "********" ++ lastChars 4 val else "********"
  else if fieldName = "medical_conditions" then
    if 2 ≤ val.length then "***" ++ lastChars 2 val else "********"
  else if fieldName = "emergency_contact" then
    if 4 ≤ val.length then "******" ++ lastChars 4 val else "********"
  else "********"

/-! ## Records -/

/-- The values of a record. -/
structure Values where
  nationalId : String
  medicalConditions : String
  emergencyContact : String
  deriving DecidableEq, Repr

/-- A row of `student_health_and_records`. -/
structure HealthRow where
  id : Nat
  studentId : Nat
  nationalIdEncrypted : String
  medicalConditionsEncrypted : String
  emergencyContactEncrypted : String
  deriving DecidableEq, Repr

/-- The records, and the ids of the students that they may be of. -/
structure Tables where
  students : List Nat
  records : List HealthRow

/-- What the schema declares. -/
@[mk_iff]
structure Tables.Ok (t : Tables) : Prop where
  key : Keyed HealthRow.id t.records
  student_unique : Keyed HealthRow.studentId t.records
  student : Refers (fun r => some (HealthRow.studentId r)) id t.records t.students

instance : DecidablePred Tables.Ok := fun t => decidable_of_iff _ (Tables.ok_iff t).symm

abbrev State := Checked Tables.Ok

abbrev Prog := EStateM PyError State

/-- What the database and the encryption draw for one write. -/
structure Draws where
  id : Nat
  nationalId : Nat
  medicalConditions : Nat
  emergencyContact : Nat
  deriving DecidableEq, Repr

namespace TenantRepository

def getStudentHealthByStudentId (t : Tables) (studentId : Nat) : Option HealthRow :=
  t.records.find? fun r => r.studentId = studentId

/-- `INSERT INTO student_health_and_records … ON CONFLICT (student_id) DO UPDATE … RETURNING id`. -/
def createOrUpdateStudentHealth (id studentId : Nat)
    (nationalIdEncrypted medicalConditionsEncrypted emergencyContactEncrypted : String) :
    Prog Nat := do
  match ← query fun s : State => getStudentHealthByStudentId s.val studentId with
  | some row =>
    exec .databaseError fun t => { t with
      records := updateWhere (fun r => r.studentId = studentId)
        (fun r => { r with
          nationalIdEncrypted, medicalConditionsEncrypted, emergencyContactEncrypted })
        t.records }
    return row.id
  | none =>
    exec .databaseError fun t => { t with
      records := t.records ++ [{ id, studentId, nationalIdEncrypted, medicalConditionsEncrypted
                                 emergencyContactEncrypted }] }
    return id

end TenantRepository

/-- `requesting_user_role: str | list[str]`. -/
inductive UserRole where
  | one (role : String)
  | many (roles : List String)
  deriving DecidableEq, Repr

/-- `requesting_user_role == role`: a list is no text. -/
def UserRole.is (r : UserRole) (role : String) : Bool := r = .one role

/-- The roles that `authz.require` takes out of it. -/
def UserRole.toList : UserRole → List String
  | .one role => if role = "" then [] else [role]
  | .many roles => roles

/-- `StudentHealthResponse`. -/
structure HealthView where
  id : Nat
  studentId : Nat
  values : Values
  isMasked : Bool
  deriving DecidableEq, Repr

/-- How a read fails. -/
inductive ReadError where
  | httpException (status : Nat) (detail : String)
  /-- `InvalidToken`, or bytes that are no text. -/
  | undecodable
  deriving DecidableEq, Repr

namespace TenantService

variable [Fernet]

def createOrUpdateHealthRecord (draws : Draws) (studentId : Nat) (values : Values)
    (userRole : UserRole) :
    Prog Nat := do
  raiseIf (¬require userRole.toList ["school_admin", "teacher"])
    (.permissionError "Only staff can manage health records")
  TenantRepository.createOrUpdateStudentHealth draws.id studentId
    (encrypt draws.nationalId values.nationalId)
    (encrypt draws.medicalConditions values.medicalConditions)
    (encrypt draws.emergencyContact values.emergencyContact)

/-- The three values of a row. -/
def decryptRow (row : HealthRow) : Option Values := do
  let nationalId ← decrypt row.nationalIdEncrypted
  let medicalConditions ← decrypt row.medicalConditionsEncrypted
  let emergencyContact ← decrypt row.emergencyContactEncrypted
  return { nationalId, medicalConditions, emergencyContact }

def getHealthRecord (t : Tables) (studentId : Nat) (userRole : UserRole)
    (elevatedClearance : Bool) :
    Except ReadError (Option HealthView) :=
  match TenantRepository.getStudentHealthByStudentId t studentId with
  | none => .ok none
  | some row =>
    match decryptRow row with
    | none => .error .undecodable
    | some v =>
      if userRole.is "school_admin" ∧ elevatedClearance then
        .ok (some { id := row.id, studentId := row.studentId, values := v, isMasked := false })
      else
        .ok (some
          { id := row.id
            studentId := row.studentId
            values :=
              { nationalId := maskField v.nationalId "national_id"
                medicalConditions := maskField v.medicalConditions "medical_conditions"
                emergencyContact := maskField v.emergencyContact "emergency_contact" }
            isMasked := true })

end TenantService

/-- `require_permission("health:view")`; `reached` says whether the policy is. -/
def mayView (u : CurrentUser) (reached : Bool) : Bool :=
  Auth.can u reached "health:view" (some { tenantId := u.tenantId })

/-- `GET /{student_id}/health`, in a school that is live. -/
def getHealth [Fernet] (t : Tables) (u : CurrentUser) (reached : Bool) (studentId : Nat)
    (elevatedClearance : Bool) : Except ReadError HealthView :=
  if ¬mayView u reached then
    .error (.httpException 403 "Permission denied for action 'health:view'")
  else match TenantService.getHealthRecord t studentId (.many u.roles) elevatedClearance with
    | .error e => .error e
    | .ok none => .error (.httpException 404 "Health record not found")
    | .ok (some view) => .ok view

end Sams.Health
