import Sams.School.Rollover

/-!
# Students, classes and levels

The operations of `TenantRepository` that place students and write classes and levels one at a
time, with the service operations over them.

None of them looks at the status of the year a class belongs to, and none but the rollover's
commit writes a student's status.
-/

namespace Sams.School

open Programs Rows

namespace Tables

/-- `DELETE FROM enrollment`, with the cascade to the payments. -/
def deleteEnrollments (t : Tables) (p : EnrollmentRow → Bool) : Tables :=
  { t with
    enrollments := t.enrollments.filter fun n => ¬p n
    payments := t.payments.filter fun x => ¬t.enrollments.any fun n => p n ∧ n.id = x.enrollmentId }

/-- `DELETE FROM event_class_map`, with the cascade to the enrollments. -/
def deleteEventClasses (t : Tables) (p : EventClassRow → Bool) : Tables :=
  { t.deleteEnrollments fun n => t.eventClasses.any fun e => p e ∧ e.id = n.eventClassMapId with
    eventClasses := t.eventClasses.filter fun e => ¬p e }

/-- `ON DELETE SET NULL` of a column that pointed at a deleted row. -/
def setNull (gone : Nat → Bool) (k : Option Nat) : Option Nat := k.filter fun id => ¬gone id

/-- `DELETE FROM class`, with the cascades. A class that a student is placed in is restricted by
the foreign key of `students`. -/
def deleteClasses (t : Tables) (p : ClassRow → Bool) : Tables :=
  let gone := fun id => t.classes.any fun c => p c ∧ c.id = id
  let t' := t.deleteEventClasses fun e => gone e.classId
  { t' with
    classes := t.classes.filter fun c => ¬p c
    history := t.history.map fun h =>
      { h with oldClassId := setNull gone h.oldClassId, newClassId := setNull gone h.newClassId }
    lines := t.lines.map fun l =>
      { l with fromClassId := setNull gone l.fromClassId, toClassId := setNull gone l.toClassId } }

/-- `DELETE FROM levels`. A level with classes is restricted by the foreign key of `class`. -/
def deleteLevels (t : Tables) (lid : Nat) : Tables :=
  { t with
    levels := t.levels.filter fun l => l.levelId ≠ lid
    lines := t.lines.map fun l => { l with toLevelId := setNull (fun id => id = lid) l.toLevelId } }

def setClasses (t : Tables) (p : ClassRow → Bool) (f : ClassRow → ClassRow) : Tables :=
  { t with classes := updateWhere p f t.classes }

def setLevels (t : Tables) (p : LevelRow → Bool) (f : LevelRow → LevelRow) : Tables :=
  { t with levels := updateWhere p f t.levels }

end Tables

/-! ## The section label of a class name -/

/-- One letter of `Section` under `re.IGNORECASE`. -/
def sameLetter (pat c : Char) : Bool :=
  c = pat ∨ c = pat.toUpper ∨ (pat = 's' ∧ c.toNat = 0x17F) ∨
    (pat = 'i' ∧ (c.toNat = 0x130 ∨ c.toNat = 0x131))

/-- `\w`. -/
def isWord [Unicode] (c : Char) : Bool := Unicode.isAlnum c ∨ c = '_'

/-- What follows `(?:-|\bSection)` when it matches here, `prev` being the character before. -/
def afterMarker [Unicode] (prev : Option Char) (cs : List Char) : Option (List Char) :=
  match cs with
  | '-' :: rest => some rest
  | _ =>
    let word := "section".toList
    if ¬prev.any isWord ∧ cs.length ≥ word.length ∧ (List.zipWith sameLetter word cs).all id then
      some (cs.drop word.length)
    else none

/-- `\s*(\S+)\s*$`. -/
def trailingLabel (cs : List Char) : Option String :=
  let cs := cs.dropWhile Text.isSpace
  let label := cs.takeWhile fun c => ¬Text.isSpace c
  if label ≠ [] ∧ (cs.drop label.length).all Text.isSpace then some (String.ofList label) else none

/-- The leftmost match of the label pattern. -/
def searchLabel [Unicode] : Option Char → List Char → Option String
  | _, [] => none
  | prev, c :: cs =>
    match (afterMarker prev (c :: cs)).bind trailingLabel with
    | some label => some label
    | none => searchLabel (some c) cs

/-- The key by which a rollover matches a class to next year's, from its name. -/
def deriveSectionLabel [Unicode] (name : String) : Option String := searchLabel none name.toList

example : @deriveSectionLabel ascii "Grade 1 - A" = some "A" := by decide +kernel

example : @deriveSectionLabel ascii "Grade 1 section B2 " = some "B2" := by decide +kernel

/-! ## `TenantRepository` -/

namespace TenantRepository

variable [Unicode]

/-! ### Levels -/

/-- The columns of a level a caller may give. -/
structure LevelFields where
  iscedLevel : Option Int
  ageBandMin : Option Int
  ageBandMax : Option Int
  ordinal : Option Int
  deriving DecidableEq, Repr

def createLevel (name : String) (fields : LevelFields) (isActive : Bool) : Prog Nat := do
  let id ← read fun t => t.seq.level
  stmt fun t =>
    { t with
      levels := t.levels ++
        [{ levelId := id, name, iscedLevel := fields.iscedLevel, ageBandMin := fields.ageBandMin
           ageBandMax := fields.ageBandMax, ordinal := fields.ordinal, isActive }]
      seq := { t.seq with level := id + 1 } }
  return id

/-- `LOWER(name) = LOWER($1)`. -/
def sameName (a b : String) : Bool := Unicode.sqlLower a = Unicode.sqlLower b

/-- A text is handed to the database, which refuses one with the character U+0000. -/
abbrev sendText (text : String) : Prog Unit := raiseIf (¬Text.storable text) .databaseError

def getLevelByName (name : String) : Prog (Option LevelRow) := do
  sendText (Text.strip name)
  read fun t => t.levels.find? fun l => sameName l.name (Text.strip name)

theorem moves_getLevelByName {R : Db → Db → Prop} [IsPreorder Db R] (name : String) :
    Moves R (getLevelByName name) :=
  moves_bind (moves_raiseIf _ _) fun _ => moves_query _

abbrev getLevelById (levelId : Nat) : Prog (Option LevelRow) := read fun t => t.level? levelId

/-- A field that is not given keeps its value. -/
def updateLevel (levelId : Nat) (name : Option String) (fields : LevelFields)
    (isActive : Option Bool) : Prog (Option LevelRow) := do
  match ← getLevelById levelId with
  | none => throw (.valueError s!"Level {levelId} not found")
  | some current =>
    stmt fun t => t.setLevels (fun l => l.levelId = levelId) fun l =>
      { l with
        name := (name.map Text.strip).getD current.name
        iscedLevel := fields.iscedLevel.or current.iscedLevel
        ageBandMin := fields.ageBandMin.or current.ageBandMin
        ageBandMax := fields.ageBandMax.or current.ageBandMax
        ordinal := fields.ordinal.or current.ordinal
        isActive := isActive.getD current.isActive }
    getLevelById levelId

/-- Whether an upsert created its row or updated one. -/
inductive Upserted where
  | created
  | updated
  deriving DecidableEq, Repr

def upsertLevelByName (name : String) (fields : LevelFields) (isActive : Bool) :
    Prog (Nat × Upserted) := do
  match ← getLevelByName name with
  | some existing =>
    let _ ← updateLevel existing.levelId (some name) fields (some isActive)
    return (existing.levelId, .updated)
  | none =>
    let id ← createLevel name
      { iscedLevel := some (fields.iscedLevel.getD 1), ageBandMin := some (fields.ageBandMin.getD 6)
        ageBandMax := some (fields.ageBandMax.getD 7), ordinal := some (fields.ordinal.getD 1) }
      isActive
    return (id, .created)

/-! ### Students -/

/-- Insert the student, or rewrite the row that has the id. The status is not written: a new row
is enrolled, an existing one keeps what it has. -/
def createStudent (userId : Nat) (name : String) (classId : Option Nat)
    (gender birthData : Option String) (changedBy : Option Nat) : Prog Nat := do
  let newCid := Text.nonZero classId
  transaction do
    let existing ← read fun t => t.student? userId
    let existingCid := existing.bind StudentRow.classId
    stmt fun t =>
      if existing.isSome then
        t.setStudents (fun s => s.id = userId)
          fun s => { s with name, classId := newCid, gender, birthData }
      else
        { t with
          students := t.students ++
            [{ id := userId, name, classId := newCid, gender, birthData, status := .enrolled
               exitedOn := none }] }
    onlyIf (newCid ≠ existingCid) (recordClassChange userId existingCid newCid changedBy)
  return userId

def reassignStudentClass (studentId : Nat) (newClassId changedBy : Option Nat) : Prog Bool := do
  let cid := Text.nonZero newClassId
  transaction do
    match ← read fun t => t.student? studentId with
    | none => throw (.valueError s!"Student {studentId} not found")
    | some row =>
      onlyIf (cid ≠ row.classId) do
        stmt fun t => t.setStudents (fun s => s.id = studentId) fun s => { s with classId := cid }
        recordClassChange studentId row.classId cid changedBy
  return true

/-- What a bulk reassignment reports. -/
structure BulkResult where
  updatedCount : Nat
  missingStudentIds : List Nat
  deriving DecidableEq, Repr

def bulkReassignStudents (studentIds : List Nat) (newClassId changedBy : Option Nat) :
    Prog BulkResult := do
  if studentIds = [] then
    return { updatedCount := 0, missingStudentIds := [] }
  let cid := Text.nonZero newClassId
  let found ← transaction do
    let found ← read fun t => t.students.filter fun s => s.id ∈ studentIds
    onlyIf (found ≠ []) do
      stmt fun t => t.setStudents (fun s => s.id ∈ found.map StudentRow.id)
        fun s => { s with classId := cid }
      found.forM fun s =>
        onlyIf (s.classId ≠ cid) (recordClassChange s.id s.classId cid changedBy)
    return found
  let missing := (studentIds.filter fun id => id ∉ found.map StudentRow.id).dedup
  return { updatedCount := found.length, missingStudentIds := missing.insertionSort (· ≤ ·) }

/-! ### Classes -/

def createClass (name : String) (levelId : Nat) (headTeacherId : Option Nat)
    (capacity : Option Int) (isActive : Bool) (academicYearId : Option Nat) : Prog Nat := do
  let active ← getActiveAcademicYearId
  match (Text.nonZero academicYearId).or active with
  | none => throw (.valueError "No active academic year is set for this tenant")
  | some ayId =>
    let id ← read fun t => t.seq.class_
    let cleanName := Text.strip name
    -- the name is in the index of a unique constraint
    raiseIf (¬Unicode.indexed cleanName) .databaseError
    stmt fun t => t.insertClass
      { id, name := cleanName, levelId, headTeacherId := Text.nonZero headTeacherId
        capacity := if capacity.getD 0 = 0 then 25 else capacity.getD 0
        isActive, academicYearId := ayId, sectionLabel := deriveSectionLabel cleanName }
    return id

def getClassByNameAndLevel (name : String) (levelId : Nat) (academicYearId : Option Nat) :
    Prog (Option ClassRow) := do
  let active ← getActiveAcademicYearId
  let ayId := (Text.nonZero academicYearId).or active
  sendText (Text.strip name)
  read fun t => t.classes.find? fun c =>
    sameName c.name (Text.strip name) ∧ c.levelId = levelId ∧ some c.academicYearId = ayId

theorem moves_getClassByNameAndLevel {R : Db → Db → Prop} [IsPreorder Db R] (name : String)
    (levelId : Nat)
    (academicYearId : Option Nat) : Moves R (getClassByNameAndLevel name levelId academicYearId) :=
  moves_bind (moves_query _) fun _ => moves_bind (moves_raiseIf _ _) fun _ => moves_query _

abbrev getClassById (classId : Nat) : Prog (Option ClassRow) := read fun t => t.class? classId

/-- A head teacher that may be left alone, cleared or set. -/
inductive HeadTeacher where
  | unset
  | value (id : Option Nat)
  deriving DecidableEq, Repr

def HeadTeacher.getD : HeadTeacher → Option Nat → Option Nat
  | .unset, current => current
  | .value id, _ => id

/-- A field that is not given keeps its value; the section label follows the name. -/
def updateClass (classId : Nat) (name : Option String) (levelId : Option Nat)
    (headTeacherId : HeadTeacher) (capacity : Option Int) (isActive : Option Bool) :
    Prog (Option ClassRow) := do
  match ← getClassById classId with
  | none => throw (.valueError s!"Class {classId} not found")
  | some current =>
    let newName := (name.map Text.strip).getD current.name
    raiseIf (¬Unicode.indexed newName) .databaseError
    stmt fun t => t.setClasses (fun c => c.id = classId) fun c =>
      { c with
        name := newName
        levelId := levelId.getD current.levelId
        headTeacherId := headTeacherId.getD current.headTeacherId
        capacity := capacity.getD current.capacity
        isActive := isActive.getD current.isActive
        sectionLabel := deriveSectionLabel newName }
    getClassById classId

/-- Create or update the class of that name and level in the given year, by default the active
one. -/
def upsertClassByNameAndLevel (name : String) (levelId : Nat) (headTeacherId : HeadTeacher)
    (capacity : Option Int) (isActive : Bool) (academicYearId : Option Nat) :
    Prog (Nat × Upserted) := do
  let active ← getActiveAcademicYearId
  match (Text.nonZero academicYearId).or active with
  | none => throw (.valueError "No active academic year is set for this tenant")
  | some ayId =>
    match ← getClassByNameAndLevel name levelId (some ayId) with
    | some existing =>
      let _ ← updateClass existing.id (some name) (some levelId) headTeacherId capacity
        (some isActive)
      return (existing.id, .updated)
    | none =>
      let id ← createClass name levelId (headTeacherId.getD none) (some (capacity.getD 25)) isActive
        (some ayId)
      return (id, .created)

/-! ### Deleting classes and levels -/

/-- Refuse to touch classes that any enrollment hangs on. -/
def blockIfClassesHaveEnrollmentHistory (classIds : List Nat) : Prog Unit := do
  let count ← read fun t => t.enrollments.countP fun n =>
    t.eventClasses.any fun e => e.id = n.eventClassMapId ∧ e.classId ∈ classIds
  raiseIf (count ≠ 0) (.valueError
    ("Cannot delete: " ++ toString count ++ " enrollment(s), and any payments tied to " ++
     "them, exist for trips involving this class. Enrollment and payment history " ++
     "cannot be deleted."))

/-- Unlink the students of the classes, record it, and delete the classes and their event maps:
the part the two deletions and the structure editor share. -/
def removeClasses (classIds : List Nat) (changedBy : Option Nat) : Prog Unit := do
  blockIfClassesHaveEnrollmentHistory classIds
  let affected ← read fun t => t.students.filter fun s => s.classId.any fun c => c ∈ classIds
  stmt fun t => t.setStudents (fun s => s.classId.any fun c => c ∈ classIds)
    fun s => { s with classId := none }
  affected.forM fun s => recordClassChange s.id s.classId none changedBy
  stmt fun t => t.deleteEventClasses fun e => e.classId ∈ classIds
  stmt fun t => t.deleteClasses fun c => c.id ∈ classIds

/-- The hook runs in the transaction, last: what it writes is kept if and only if the deletion
is. -/
def deleteClass (classId : Nat) (changedBy : Option Nat) (auditHook : Prog Unit) : Prog Bool := do
  transaction do
    let existing ← read fun t => (t.class? classId).map ClassRow.id
    raiseIf (Text.nonZero existing = none) (.valueError s!"Class {classId} not found")
    removeClasses [classId] changedBy
    auditHook
  return true

def deleteLevel (levelId : Nat) (changedBy : Option Nat) (auditHook : Prog Unit) : Prog Bool := do
  transaction do
    let existing ← read fun t => (t.level? levelId).map LevelRow.levelId
    raiseIf (Text.nonZero existing = none) (.valueError s!"Level {levelId} not found")
    let classIds ← read fun t =>
      (t.classes.filter fun c => c.levelId = levelId).map ClassRow.id
    onlyIf (classIds ≠ []) (removeClasses classIds changedBy)
    stmt fun t => t.deleteLevels levelId
    auditHook
  return true

end TenantRepository

/-! ## `AuditService` -/

namespace AuditService

/-- Who acts, as far as the log asks: an email is never given here, and its hash stays null. -/
structure Actor where
  id : Option Nat
  role : String
  deriving DecidableEq, Repr

/-- `_AuditActor`: the first of the caller's roles. -/
def Actor.of (changedBy : Option Nat) (userRole : List String) : Actor where
  id := changedBy
  role := userRole.headD "unknown"

/-- One row of the log. No actor is the system. -/
def record (actor : Option Actor) (action entityType : String) (entityId : Option Nat)
    (outcome : AuditOutcome) : Prog Unit :=
  stmt fun t =>
    { t with
      auditLog := t.auditLog ++
        [{ id := t.seq.audit, actorUserId := actor.bind Actor.id
           actorRole := (actor.map fun a => if a.role = "" then "unknown" else a.role).getD "system"
           action, entityType, entityId := entityId.map toString, outcome }]
      seq := { t.seq with audit := t.seq.audit + 1 } }

end AuditService

/-! ## `TenantService` -/

namespace TenantService

open TenantRepository

variable [Unicode]

def adminRoles : List String := ["school_admin", "super_admin", "admin"]

/-- `UserRepository.create_user` for a student. -/
def createStudentUser (email : String) : Prog Nat := do
  let email := Unicode.lower (Text.strip email)
  let taken ← read fun t => t.users.any fun u => TenantRepository.sameName u.email email
  raiseIf taken (.valueError "Email already registered")
  let id ← read fun t => t.seq.user
  stmt fun t =>
    { t with
      users := t.users ++ [{ id, email, role := "student", roles := [] }]
      seq := { t.seq with user := id + 1 } }
  return id

def createStudent (userRole : List String) (email name : String) (classId : Nat)
    (gender birthData : Option String) (changedBy : Option Nat) : Prog Nat := do
  gate userRole ["school_admin", "student:create"] "Only staff can register students"
  let userId ← createStudentUser email
  TenantRepository.createStudent userId name (some classId) gender birthData changedBy

def createLevel (userRole : List String) (name : String) (fields : LevelFields) (isActive : Bool) :
    Prog Nat := do
  gate userRole ["school_admin", "level:create"] "Only school admins can create levels"
  let (levelId, _) ← upsertLevelByName name fields isActive
  return levelId

def updateLevel (userRole : List String) (levelId : Nat) (name : Option String)
    (fields : LevelFields) (isActive : Option Bool) : Prog (Option LevelRow) := do
  gate userRole adminRoles "Only school admins can update levels"
  TenantRepository.updateLevel levelId name fields isActive

def deleteLevel (userRole : List String) (levelId : Nat) (changedBy : Option Nat) : Prog Bool := do
  gate userRole adminRoles "Only school admins can delete levels"
  TenantRepository.deleteLevel levelId changedBy
    (AuditService.record (some (.of changedBy userRole))
      "level.delete" "level" (some levelId) .allow)

def createClass (userRole : List String) (name : String) (levelId : Nat)
    (headTeacherId : Option Nat) (capacity : Int) (isActive : Bool) : Prog Nat := do
  gate userRole (adminRoles ++ ["class:create"]) "Only school admins can create classes"
  match ← getLevelById levelId with
  | none => throw (.valueError s!"Level {levelId} not found")
  | some level =>
    raiseIf (¬level.isActive)
      (.valueError ("Cannot add a section to a deactivated level: " ++ level.name))
    let head : HeadTeacher := if headTeacherId.isSome then .value headTeacherId else .unset
    let (classId, _) ←
      upsertClassByNameAndLevel name levelId head (some capacity) isActive none
    return classId

/-- A class moves only to a level that exists and is active. -/
def checkNewLevel (levelId : Option Nat) : Prog Unit := do
  match levelId with
  | none => return ()
  | some lid =>
    match ← getLevelById lid with
    | none => throw (.valueError s!"Level {lid} not found")
    | some level =>
      raiseIf (¬level.isActive)
        (.valueError ("Cannot move a section to a deactivated level: " ++ level.name))

def updateClass (userRole : List String) (classId : Nat) (name : Option String)
    (levelId : Option Nat) (headTeacherId : HeadTeacher) (capacity : Option Int)
    (isActive : Option Bool) : Prog (Option ClassRow) := do
  gate userRole (adminRoles ++ ["class:update"]) "Only school admins can update classes"
  checkNewLevel levelId
  TenantRepository.updateClass classId name levelId headTeacherId capacity isActive

def deleteClass (userRole : List String) (classId : Nat) (changedBy : Option Nat) : Prog Bool := do
  gate userRole adminRoles "Only school admins can delete classes"
  TenantRepository.deleteClass classId changedBy
    (AuditService.record (some (.of changedBy userRole))
      "class.delete" "class" (some classId) .allow)

def reassignStudentClass (userRole : List String) (studentId : Nat)
    (newClassId changedBy : Option Nat) : Prog Bool := do
  gate userRole (adminRoles ++ ["student:manage"]) "Only school admins can reassign student classes"
  TenantRepository.reassignStudentClass studentId newClassId changedBy

def bulkReassignStudents (userRole : List String) (studentIds : List Nat)
    (newClassId changedBy : Option Nat) : Prog BulkResult := do
  gate userRole (adminRoles ++ ["student:manage"]) "Only school admins can reassign student classes"
  TenantRepository.bulkReassignStudents studentIds newClassId changedBy

end TenantService

end Sams.School
