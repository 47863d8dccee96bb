import Mathlib.Tactic.MkIffOfInductiveProp
import Sams.Lib.Programs
import Sams.Lib.Rows
import Sams.Text

/-!
# A school's database

The tables of one tenant that hold its academic structure, its placements, its year rollovers and
its trips, with the constraints the schema declares on them. A `Db` is a set of tables together with
the proof that they satisfy every constraint, so a state that the database would refuse cannot be
built. A statement is `exec` of a raw update: it fails with `databaseError`, and writes nothing,
when its result violates a constraint.

Timestamps that nothing here reads (`updated_at`, `changed_at`, most of `created_at`) are left out;
`applied_at` is kept as the fact that it is set. The resources of an event are represented by the
columns whose foreign keys matter.
-/

namespace Sams

open Rows

/-- What a program raises. -/
inductive PyError where
  /-- `ValueError`, answered with a 400. -/
  | valueError (msg : String)
  /-- `PermissionError`, answered with a 403. -/
  | permissionError (msg : String)
  /-- `TypeError`, a bug in the caller or in the code. -/
  | typeError (msg : String)
  /-- `OverflowError`. -/
  | overflowError (msg : String)
  /-- `RuntimeError`. -/
  | runtimeError (msg : String)
  /-- `HTTPException`, raised by a route itself. -/
  | httpException (status : Nat) (detail : String)
  /-- A statement the database refused. -/
  | databaseError
  deriving DecidableEq, Repr

namespace School

/-- A calendar date. -/
structure Date where
  year : Nat
  month : Nat
  day : Nat
  deriving DecidableEq, Repr

/-- `academic_years.status`. -/
inductive YearStatus where
  | planned
  | active
  | closed
  deriving DecidableEq, Repr

/-- `students.status`. -/
inductive StudentStatus where
  | enrolled
  | graduated
  | withdrawn
  deriving DecidableEq, Repr

/-- `year_rollover.state`. -/
inductive RolloverState where
  | draft
  | previewed
  | committing
  | committed
  deriving DecidableEq, Repr

def RolloverState.show : RolloverState → String
  | .draft => "draft"
  | .previewed => "previewed"
  | .committing => "committing"
  | .committed => "committed"

/-- What a rollover does with a student. -/
inductive RolloverAction where
  | promote
  | graduate
  | hold
  | withdraw
  deriving DecidableEq, Repr

/-- `year_rollover_line.exception_code`. -/
inductive ExceptionCode where
  | noNextLevel
  | noPlacement
  | overCapacity
  deriving DecidableEq, Repr

/-! ## Rows -/

structure UserRow where
  id : Nat
  email : String
  role : String
  roles : List String
  deriving DecidableEq, Repr

structure TeacherRow where
  id : Nat
  name : String
  deriving DecidableEq, Repr

structure LevelRow where
  levelId : Nat
  name : String
  iscedLevel : Option Int
  ageBandMin : Option Int
  ageBandMax : Option Int
  ordinal : Option Int
  isActive : Bool
  deriving DecidableEq, Repr

structure YearRow where
  id : Nat
  name : String
  status : YearStatus
  startDate : Option Date
  endDate : Option Date
  rolledFromId : Option Nat
  deriving DecidableEq, Repr

/-- A class section. `sectionLabel` is the key by which a rollover matches it to next year's. -/
structure ClassRow where
  id : Nat
  name : String
  levelId : Nat
  headTeacherId : Option Nat
  capacity : Int
  isActive : Bool
  academicYearId : Nat
  sectionLabel : Option String
  deriving DecidableEq, Repr

structure StudentRow where
  id : Nat
  name : String
  classId : Option Nat
  gender : Option String
  birthData : Option String
  status : StudentStatus
  exitedOn : Option Date
  deriving DecidableEq, Repr

/-- A row of `student_class_history`. -/
structure ClassChangeRow where
  id : Nat
  studentId : Nat
  oldClassId : Option Nat
  newClassId : Option Nat
  changedBy : Option Nat
  deriving DecidableEq, Repr

/-- The counts a committed rollover records. -/
structure Summary where
  promoted : Nat
  graduated : Nat
  withdrawn : Nat
  held : Nat
  deriving DecidableEq, Repr

structure RolloverRow where
  id : Nat
  fromYearId : Nat
  toYearId : Nat
  state : RolloverState
  summary : Option Summary
  createdBy : Option Nat
  deriving DecidableEq, Repr

/-- A row of `year_rollover_line`: what a rollover proposes for one student, and what an admin
decided instead. -/
structure LineRow where
  id : Nat
  rolloverId : Nat
  studentId : Nat
  fromClassId : Option Nat
  toLevelId : Option Nat
  toSectionLabel : Option String
  toClassId : Option Nat
  proposedAction : RolloverAction
  overrideAction : Option RolloverAction
  exceptionCode : Option ExceptionCode
  /-- `applied_at` is set. -/
  applied : Bool
  deriving DecidableEq, Repr

/-- `override_action or proposed_action`. -/
def LineRow.effective (l : LineRow) : RolloverAction := l.overrideAction.getD l.proposedAction

/-- The key under which a promoting line's class is resolved. -/
abbrev TargetKey := Option Nat × Option String

def LineRow.target (l : LineRow) : TargetKey := (l.toLevelId, l.toSectionLabel)

/-! ### Trips -/

/-- A point in time, in microseconds. -/
abbrev Timestamp := Nat

/-- An amount of money in ten-thousandths, the scale of the columns. A finer amount, which a column
would round, is left out. -/
abbrev Money := Int

/-- `event_status`. -/
inductive EventStatus where
  | draft
  | resourcePlanning
  | proposed
  | approved
  | financeApproval
  | finalReview
  | published
  deriving DecidableEq, Repr

/-- A row of `event`. The defaults are those of the schema. -/
structure EventRow where
  id : Nat
  title : String
  description : String := ""
  address : Option String := none
  eventMapId : Option Int := none
  schoolSubsidy : Money := 0
  date : Timestamp
  createdBy : Nat
  createdAt : Timestamp
  status : EventStatus := .draft
  predictedAttendance : Option Int := none
  managerReviewerId : Option Nat := none
  financeReviewerId : Option Nat := none
  totalCost : Option Money := none
  submittedAt : Option Timestamp := none
  managerApprovedAt : Option Timestamp := none
  financePricedAt : Option Timestamp := none
  publishedAt : Option Timestamp := none
  rejectionReason : Option String := none
  deriving DecidableEq, Repr

/-- A row of `event_class_map`. -/
structure EventClassRow where
  id : Nat
  eventId : Nat
  classId : Nat
  ticketPrice : Money := 0
  deriving DecidableEq, Repr

/-- `enrollment.state`. -/
inductive EnrollmentState where
  | requestedByStudent
  | approvedByParent
  | approvedByTeacher
  | rejectedByParent
  | rejectedByTeacher
  deriving DecidableEq, Repr

structure EnrollmentRow where
  id : Nat
  studentId : Nat
  eventClassMapId : Nat
  state : EnrollmentState
  teacherId : Option Nat := none
  parentId : Option Nat := none
  deriving DecidableEq, Repr

/-- `payments.status`. -/
inductive PaymentStatus where
  | pending
  | paid
  | refunded
  deriving DecidableEq, Repr

/-- A row of `payments`. The currency is required, though the column has no default. -/
structure PaymentRow where
  id : Nat
  enrollmentId : Nat
  amount : Money
  status : PaymentStatus
  currency : Option String
  deriving DecidableEq, Repr

/-- A row of `parenets`. -/
structure ParentRow where
  id : Nat
  name : String
  deriving DecidableEq, Repr

/-- A row of `student_parent_map`. -/
structure StudentParentRow where
  studentId : Nat
  parentId : Nat
  canApprove : Bool := true
  deriving DecidableEq, Repr

structure NotificationRow where
  id : Nat
  eventId : Nat
  recipientUserId : Nat
  titleOverride : Option String
  deriving DecidableEq, Repr

/-- A row of `resources`: the event it is for and who wrote it. -/
structure ResourceRow where
  id : Nat
  eventId : Nat
  addedByUserId : Nat
  updatedByUserId : Option Nat
  deriving DecidableEq, Repr

structure ResourceCostRow where
  id : Nat
  eventId : Nat
  resourceId : Nat
  setByUserId : Nat
  deriving DecidableEq, Repr

/-- `audit_log.outcome`. -/
inductive AuditOutcome where
  | allow
  | deny
  | error
  deriving DecidableEq, Repr

/-- A row of `audit_log`: who did what to which entity. -/
structure AuditRow where
  id : Nat
  actorUserId : Option Nat
  actorRole : String
  action : String
  entityType : String
  entityId : Option String
  outcome : AuditOutcome
  deriving DecidableEq, Repr

structure SettingsRow where
  id : Nat
  academicYear : String
  startMonth : Int
  weekendDays : List String
  system : String
  deriving DecidableEq, Repr

structure BlackoutRow where
  id : Nat
  date : Date
  title : String
  tags : List String
  deriving DecidableEq, Repr

/-- The next value of each table's serial key. -/
structure Sequences where
  user : Nat
  level : Nat
  class_ : Nat
  year : Nat
  history : Nat
  rollover : Nat
  line : Nat
  settings : Nat
  blackout : Nat
  event : Nat
  eventClass : Nat
  enrollment : Nat
  payment : Nat
  notification : Nat
  audit : Nat
  resource : Nat
  deriving DecidableEq, Repr

/-- Every key starts at `n`. -/
def Sequences.startAt (n : Nat) : Sequences := ⟨n, n, n, n, n, n, n, n, n, n, n, n, n, n, n, n⟩

/-! ## The tables and their constraints -/

structure Tables where
  users : List UserRow
  teachers : List TeacherRow
  levels : List LevelRow
  years : List YearRow
  classes : List ClassRow
  students : List StudentRow
  history : List ClassChangeRow
  rollovers : List RolloverRow
  lines : List LineRow
  events : List EventRow
  eventClasses : List EventClassRow
  enrollments : List EnrollmentRow
  payments : List PaymentRow
  resources : List ResourceRow
  resourceCosts : List ResourceCostRow
  parents : List ParentRow
  studentParents : List StudentParentRow
  notifications : List NotificationRow
  auditLog : List AuditRow
  settings : List SettingsRow
  blackouts : List BlackoutRow
  /-- `school_profile.curriculum_locked_at` is set. -/
  curriculumLocked : Bool
  seq : Sequences
  deriving DecidableEq, Repr

/-- The range of an `INTEGER` column. -/
def Int4 (n : Int) : Prop := -2147483648 ≤ n ∧ n ≤ 2147483647

instance (n : Int) : Decidable (Int4 n) := inferInstanceAs (Decidable (_ ∧ _))

/-- The range of a `NUMERIC(14, 4)` column. -/
def Numeric (m : Money) : Prop := -100000000000000 < m ∧ m < 100000000000000

instance (m : Money) : Decidable (Numeric m) := inferInstanceAs (Decidable (_ ∧ _))

/-- `users_role_check`. -/
def userRoles : List String :=
  ["school_admin", "teacher", "parent", "student", "manager", "finance", "event_teacher",
   "pending", "super_admin"]

/-- The integer columns of a level. -/
def LevelRow.integers (l : LevelRow) : List (Option Int) :=
  [l.iscedLevel, l.ageBandMin, l.ageBandMax, l.ordinal]

/-- The money columns of an event. -/
def EventRow.amounts (e : EventRow) : List Money := e.schoolSubsidy :: e.totalCost.toList

/-- The primary keys. -/
@[mk_iff]
structure Tables.PrimaryKeys (t : Tables) : Prop where
  users : Keyed UserRow.id t.users
  teachers : Keyed TeacherRow.id t.teachers
  levels : Keyed LevelRow.levelId t.levels
  years : Keyed YearRow.id t.years
  classes : Keyed ClassRow.id t.classes
  students : Keyed StudentRow.id t.students
  history : Keyed ClassChangeRow.id t.history
  rollovers : Keyed RolloverRow.id t.rollovers
  lines : Keyed LineRow.id t.lines
  events : Keyed EventRow.id t.events
  eventClasses : Keyed EventClassRow.id t.eventClasses
  enrollments : Keyed EnrollmentRow.id t.enrollments
  payments : Keyed PaymentRow.id t.payments
  resources : Keyed ResourceRow.id t.resources
  resourceCosts : Keyed ResourceCostRow.id t.resourceCosts
  parents : Keyed ParentRow.id t.parents
  studentParents : Keyed (fun m => (m.studentId, m.parentId)) t.studentParents
  notifications : Keyed NotificationRow.id t.notifications
  auditLog : Keyed AuditRow.id t.auditLog
  settings : Keyed SettingsRow.id t.settings
  blackouts : Keyed BlackoutRow.id t.blackouts

/-- The other unique constraints, the partial unique index on the active year among them. -/
@[mk_iff]
structure Tables.UniqueKeys (t : Tables) : Prop where
  one_active_academic_year : (t.years.filter fun y => y.status = .active).length ≤ 1
  class_name_academic_year : Keyed (fun c => (c.name, c.academicYearId)) t.classes
  rollover_years : Keyed (fun r => (r.fromYearId, r.toYearId)) t.rollovers
  line_student : Keyed (fun l => (l.rolloverId, l.studentId)) t.lines
  enrollment : Keyed (fun e => (e.studentId, e.eventClassMapId)) t.enrollments
  resource_cost : Keyed ResourceCostRow.resourceId t.resourceCosts

/-- The check constraints and the ranges of the integer columns. -/
@[mk_iff]
structure Tables.Checks (t : Tables) : Prop where
  users_role_check : ∀ u ∈ t.users, u.role ∈ userRoles
  level_integers : ∀ l ∈ t.levels, ∀ v ∈ l.integers, ∀ n ∈ v, Int4 n
  class_capacity_positive : ∀ c ∈ t.classes, 0 < c.capacity ∧ Int4 c.capacity
  line_proposed_action : ∀ l ∈ t.lines, l.proposedAction ≠ .withdraw
  settings_start_month : ∀ s ∈ t.settings, Int4 s.startMonth
  event_amounts : ∀ e ∈ t.events, ∀ m ∈ e.amounts, Numeric m
  event_predicted_attendance : ∀ e ∈ t.events, ∀ n ∈ e.predictedAttendance, Int4 n
  ticket_price : ∀ m ∈ t.eventClasses, Numeric m.ticketPrice
  payment_amount : ∀ p ∈ t.payments, Numeric p.amount
  payment_currency : ∀ p ∈ t.payments, p.currency.isSome
  notification_title : ∀ n ∈ t.notifications, ∀ title ∈ n.titleOverride, title.length ≤ 255

/-- The foreign keys of the academic structure and of the placements. -/
@[mk_iff]
structure Tables.PlacementRefs (t : Tables) : Prop where
  teacher_user : Refers (fun x => some x.id) UserRow.id t.teachers t.users
  year_rolled_from : Refers YearRow.rolledFromId YearRow.id t.years t.years
  class_level : Refers (fun c => some c.levelId) LevelRow.levelId t.classes t.levels
  class_head_teacher : Refers ClassRow.headTeacherId TeacherRow.id t.classes t.teachers
  class_year : Refers (fun c => some c.academicYearId) YearRow.id t.classes t.years
  student_user : Refers (fun s => some s.id) UserRow.id t.students t.users
  student_class : Refers StudentRow.classId ClassRow.id t.students t.classes
  history_student : Refers (fun h => some h.studentId) StudentRow.id t.history t.students
  history_old_class : Refers ClassChangeRow.oldClassId ClassRow.id t.history t.classes
  history_new_class : Refers ClassChangeRow.newClassId ClassRow.id t.history t.classes
  history_changed_by : Refers ClassChangeRow.changedBy UserRow.id t.history t.users

/-- The foreign keys of the rollovers and of the enrollments. -/
@[mk_iff]
structure Tables.RolloverRefs (t : Tables) : Prop where
  rollover_from_year : Refers (fun r => some r.fromYearId) YearRow.id t.rollovers t.years
  rollover_to_year : Refers (fun r => some r.toYearId) YearRow.id t.rollovers t.years
  rollover_created_by : Refers RolloverRow.createdBy UserRow.id t.rollovers t.users
  line_rollover : Refers (fun l => some l.rolloverId) RolloverRow.id t.lines t.rollovers
  line_student : Refers (fun l => some l.studentId) StudentRow.id t.lines t.students
  line_from_class : Refers LineRow.fromClassId ClassRow.id t.lines t.classes
  line_to_level : Refers LineRow.toLevelId LevelRow.levelId t.lines t.levels
  line_to_class : Refers LineRow.toClassId ClassRow.id t.lines t.classes
  event_class_class : Refers (fun e => some e.classId) ClassRow.id t.eventClasses t.classes
  enrollment_student : Refers (fun e => some e.studentId) StudentRow.id t.enrollments t.students
  enrollment_event_class :
    Refers (fun e => some e.eventClassMapId) EventClassRow.id t.enrollments t.eventClasses

/-- The foreign keys of the events, of their resources and of the payments. -/
@[mk_iff]
structure Tables.EventRefs (t : Tables) : Prop where
  event_created_by : Refers (fun e => some e.createdBy) UserRow.id t.events t.users
  event_manager_reviewer : Refers EventRow.managerReviewerId UserRow.id t.events t.users
  event_finance_reviewer : Refers EventRow.financeReviewerId UserRow.id t.events t.users
  event_class_event : Refers (fun m => some m.eventId) EventRow.id t.eventClasses t.events
  payment_enrollment :
    Refers (fun p => some p.enrollmentId) EnrollmentRow.id t.payments t.enrollments
  resource_event : Refers (fun r => some r.eventId) EventRow.id t.resources t.events
  resource_added_by : Refers (fun r => some r.addedByUserId) UserRow.id t.resources t.users
  resource_updated_by : Refers ResourceRow.updatedByUserId UserRow.id t.resources t.users
  cost_event : Refers (fun c => some c.eventId) EventRow.id t.resourceCosts t.events
  cost_resource : Refers (fun c => some c.resourceId) ResourceRow.id t.resourceCosts t.resources
  cost_set_by : Refers (fun c => some c.setByUserId) UserRow.id t.resourceCosts t.users

/-- The foreign keys of the parents, of the notifications and of the audit log. -/
@[mk_iff]
structure Tables.ContactRefs (t : Tables) : Prop where
  parent_user : Refers (fun p => some p.id) UserRow.id t.parents t.users
  map_student : Refers (fun m => some m.studentId) StudentRow.id t.studentParents t.students
  map_parent : Refers (fun m => some m.parentId) ParentRow.id t.studentParents t.parents
  enrollment_teacher : Refers EnrollmentRow.teacherId TeacherRow.id t.enrollments t.teachers
  enrollment_parent : Refers EnrollmentRow.parentId ParentRow.id t.enrollments t.parents
  notification_event : Refers (fun n => some n.eventId) EventRow.id t.notifications t.events
  notification_recipient :
    Refers (fun n => some n.recipientUserId) UserRow.id t.notifications t.users
  audit_actor : Refers AuditRow.actorUserId UserRow.id t.auditLog t.users

/-- What the schema declares. -/
@[mk_iff]
structure Tables.Ok (t : Tables) : Prop where
  keys : t.PrimaryKeys
  unique : t.UniqueKeys
  checks : t.Checks
  placements : t.PlacementRefs
  rollovers : t.RolloverRefs
  events : t.EventRefs
  contacts : t.ContactRefs

instance (t : Tables) : Decidable t.PrimaryKeys :=
  decidable_of_iff _ (Tables.primaryKeys_iff t).symm

instance (t : Tables) : Decidable t.UniqueKeys :=
  decidable_of_iff _ (Tables.uniqueKeys_iff t).symm

instance (t : Tables) : Decidable t.Checks :=
  decidable_of_iff _ (Tables.checks_iff t).symm

instance (t : Tables) : Decidable t.PlacementRefs :=
  decidable_of_iff _ (Tables.placementRefs_iff t).symm

instance (t : Tables) : Decidable t.RolloverRefs :=
  decidable_of_iff _ (Tables.rolloverRefs_iff t).symm

instance (t : Tables) : Decidable t.EventRefs :=
  decidable_of_iff _ (Tables.eventRefs_iff t).symm

instance (t : Tables) : Decidable t.ContactRefs :=
  decidable_of_iff _ (Tables.contactRefs_iff t).symm

instance : DecidablePred Tables.Ok := fun t => decidable_of_iff _ (Tables.ok_iff t).symm

/-- A database: tables that satisfy every constraint. -/
abbrev Db := Programs.Checked Tables.Ok

/-- A program of the school's side. -/
abbrev Prog := EStateM PyError Db

/-- The error with which a database answers a statement it refuses. -/
abbrev stmt (f : Tables → Tables) : Prog Unit := Programs.exec .databaseError f

/-- Read the tables. -/
abbrev read {α : Type} (f : Tables → α) : Prog α := Programs.query fun d => f d.val

/-! ## Reading rows by key -/

namespace Db

variable {d : Db}

theorem class_unique {c c' : ClassRow} (h : c ∈ d.val.classes) (h' : c' ∈ d.val.classes)
    (he : c.id = c'.id) : c = c' := d.ok.keys.classes.eq_of_key_eq h h' he

theorem student_unique {s s' : StudentRow} (h : s ∈ d.val.students) (h' : s' ∈ d.val.students)
    (he : s.id = s'.id) : s = s' := d.ok.keys.students.eq_of_key_eq h h' he

theorem level_unique {l l' : LevelRow} (h : l ∈ d.val.levels) (h' : l' ∈ d.val.levels)
    (he : l.levelId = l'.levelId) : l = l' := d.ok.keys.levels.eq_of_key_eq h h' he

theorem rollover_unique {r r' : RolloverRow} (h : r ∈ d.val.rollovers) (h' : r' ∈ d.val.rollovers)
    (he : r.id = r'.id) : r = r' := d.ok.keys.rollovers.eq_of_key_eq h h' he

/-- A rollover has at most one line for a student. -/
theorem line_unique {l l' : LineRow} (h : l ∈ d.val.lines) (h' : l' ∈ d.val.lines)
    (hr : l.rolloverId = l'.rolloverId) (hs : l.studentId = l'.studentId) : l = l' :=
  d.ok.unique.line_student.eq_of_key_eq h h' (Prod.ext hr hs)

/-- Two active years are the same. -/
theorem active_unique {y y' : YearRow} (h : y ∈ d.val.years) (h' : y' ∈ d.val.years)
    (ha : y.status = .active) (ha' : y'.status = .active) : y = y' := by
  have hlen := d.ok.unique.one_active_academic_year
  have hm : y ∈ d.val.years.filter fun y => y.status = .active := by simp [h, ha]
  have hm' : y' ∈ d.val.years.filter fun y => y.status = .active := by simp [h', ha']
  rcases hf : d.val.years.filter fun y => y.status = .active with _ | ⟨z, _ | ⟨w, l⟩⟩
  · rw [hf] at hm
    cases hm
  · rw [hf, List.mem_singleton] at hm hm'
    rw [hm, hm']
  · rw [hf] at hlen
    simp at hlen

end Db

end School

end Sams
