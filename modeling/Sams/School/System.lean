import Sams.Lib.Runs
import Sams.School.Structure

/-!
# The school as a transition system

Every operation on a school's database as one step. An operation that raises also leaves a state:
what its committed statements wrote, or nothing when it was one transaction. A run is a list of
operations in any order, by any callers.

`placeStudent` and `createClassIn` are the repository methods `create_student` and `create_class`
with all their arguments; the service reaches them only with a fresh user and with the active year.
-/

namespace Sams.School

open Programs

/-- A call, with the caller's roles first where the service asks for them. -/
inductive Op where
  | createAcademicYear (userRole : List String) (name : String) (startDate endDate : Option Date)
  | generateRolloverPlan (userRole : List String) (fromYearId toYearId : Nat)
      (createdBy : Option Nat)
  | overrideRolloverLine (userRole : List String) (lineId : Nat) (overrideAction : Option String)
      (toLevelId : Option Nat) (toSectionLabel : Option String)
  | previewRollover (userRole : List String) (rolloverId : Nat)
  | commitRollover (userRole : List String) (rolloverId : Nat) (changedBy : Option Nat)
  | createStudent (userRole : List String) (email name : String) (classId : Nat)
      (gender birthData : Option String) (changedBy : Option Nat)
  | placeStudent (userId : Nat) (name : String) (classId : Option Nat)
      (gender birthData : Option String) (changedBy : Option Nat)
  | reassignStudentClass (userRole : List String) (studentId : Nat)
      (newClassId changedBy : Option Nat)
  | bulkReassignStudents (userRole : List String) (studentIds : List Nat)
      (newClassId changedBy : Option Nat)
  | createLevel (userRole : List String) (name : String) (fields : TenantRepository.LevelFields)
      (isActive : Bool)
  | updateLevel (userRole : List String) (levelId : Nat) (name : Option String)
      (fields : TenantRepository.LevelFields) (isActive : Option Bool)
  | deleteLevel (userRole : List String) (levelId : Nat) (changedBy : Option Nat)
  | createClass (userRole : List String) (name : String) (levelId : Nat)
      (headTeacherId : Option Nat) (capacity : Int) (isActive : Bool)
  | createClassIn (name : String) (levelId : Nat) (headTeacherId : Option Nat)
      (capacity : Option Int) (isActive : Bool) (academicYearId : Option Nat)
  | updateClass (userRole : List String) (classId : Nat) (name : Option String)
      (levelId : Option Nat) (headTeacherId : TenantRepository.HeadTeacher)
      (capacity : Option Int) (isActive : Option Bool)
  | deleteClass (userRole : List String) (classId : Nat) (changedBy : Option Nat)
  | saveAcademicStructure (userRole : List String) (payload : StructureIn) (changedBy : Option Nat)
  | commitStructureImport (userRole : List String) (rows : List TenantRepository.ImportRow)
  deriving DecidableEq, Repr

variable [Unicode]

/-- The program of a call, its result dropped. -/
def Op.program : Op → Prog Unit
  | .createAcademicYear u n s e => discard (TenantService.createAcademicYear u n s e)
  | .generateRolloverPlan u f t c => discard (TenantService.generateRolloverPlan u f t c)
  | .overrideRolloverLine u l a lv sec =>
    discard (TenantService.overrideRolloverLine u l a lv sec)
  | .previewRollover u r => discard (TenantService.previewRollover u r)
  | .commitRollover u r c => discard (TenantService.commitRollover u r c)
  | .createStudent u e n cl g b c => discard (TenantService.createStudent u e n cl g b c)
  | .placeStudent i n cl g b c => discard (TenantRepository.createStudent i n cl g b c)
  | .reassignStudentClass u s n c => discard (TenantService.reassignStudentClass u s n c)
  | .bulkReassignStudents u s n c => discard (TenantService.bulkReassignStudents u s n c)
  | .createLevel u n f a => discard (TenantService.createLevel u n f a)
  | .updateLevel u l n f a => discard (TenantService.updateLevel u l n f a)
  | .deleteLevel u l c => discard (TenantService.deleteLevel u l c)
  | .createClass u n l h cap a => discard (TenantService.createClass u n l h cap a)
  | .createClassIn n l h cap a y => discard (TenantRepository.createClass n l h cap a y)
  | .updateClass u i n l h cap a => discard (TenantService.updateClass u i n l h cap a)
  | .deleteClass u i c => discard (TenantService.deleteClass u i c)
  | .saveAcademicStructure u p c => TenantService.saveAcademicStructure u p c
  | .commitStructureImport u rows => discard (TenantService.commitStructureImport u rows)

/-- One step: the state a call leaves. -/
def step (d : Db) (op : Op) : Db := after op.program d

/-- What a call answers. -/
def succeeds (d : Db) (op : Op) : Prop := ∃ d', op.program d = .ok () d'

/-! ## A small school -/

/-- Two grades, an active year with one class and one student in it, and two planned years. New
rows are numbered from 100. -/
def smallSchoolTables : Tables where
  users := [⟨1, "s@school", "student", []⟩, ⟨2, "t@school", "teacher", []⟩]
  teachers := []
  levels := [⟨1, "G1", none, none, none, some 1, true⟩, ⟨2, "G2", none, none, none, some 2, true⟩]
  years := [⟨1, "Y1", .active, none, none, none⟩, ⟨2, "Y2", .planned, none, none, none⟩,
    ⟨3, "Y3", .planned, none, none, none⟩]
  classes := [⟨1, "G1 - A", 1, none, 25, true, 1, some "A"⟩]
  students := [⟨1, "S", some 1, none, none, .enrolled, none⟩]
  history := []
  rollovers := []
  lines := []
  events := []
  eventClasses := []
  enrollments := []
  payments := []
  resources := []
  resourceCosts := []
  parents := []
  studentParents := []
  notifications := []
  auditLog := []
  settings := []
  blackouts := []
  curriculumLocked := false
  seq := .startAt 100

def smallSchool : Db := ⟨smallSchoolTables, by decide +kernel⟩

/-- A run of the small school by its administrator. -/
abbrev smallRun (ops : List Op) : Db := Runs.run (@step ascii) smallSchool ops

/-- Generate the rollover `rid` for two years and preview it. -/
def planned (rid fromYear toYear : Nat) : List Op :=
  [.generateRolloverPlan ["school_admin"] fromYear toYear none,
   .previewRollover ["school_admin"] rid]

def committed (rid : Nat) : Op := .commitRollover ["school_admin"] rid none

end Sams.School
