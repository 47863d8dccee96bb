import Sams.Authz
import Sams.Lib.Interleaving
import Sams.School.Deletions

/-!
# Events and who may see and edit them

What the event routes share: the actor of a request, the event as `get_event_by_id` reads it, the
permission checks on it, the answer that a route makes of it, and the exceptions it answers with.

A route is a `Task`: every statement and every transaction is one atomic action, and other requests
may change the school between two of them.
-/

namespace Sams.Trips

open School Programs Interleaving

/-- The writes that take for granted what their request has read, and the reads themselves. -/
inductive Mark where
  /-- The status of an event was written, in place of the one that was read. -/
  | status (eventId : Nat) (found next : EventStatus)
  /-- A student or a parent was notified that an event is published, which was
  read at this status. -/
  | announce (eventId : Nat) (found : EventStatus)
  /-- The subsidy of an event was set by who may set it. -/
  | setSubsidy (eventId : Nat) (amount : Money)
  /-- The subsidy that was read was written back. -/
  | keepSubsidy (eventId : Nat) (found : Money)
  /-- The user entered an enrollment, where none was read. -/
  | enroll (user : Authz.CurrentUser) (studentId eventClassMapId : Nat) (state : EnrollmentState)
  /-- A decision on an enrollment was written, in place of the state that was read. -/
  | decide (enrollmentId : Nat) (found state : EnrollmentState)
  /-- An enrollment whose payment was not paid was deleted. -/
  | cancel (enrollmentId : Nat)
  /-- The payment of an enrollment was set to paid. -/
  | pay (enrollmentId : Nat)
  deriving DecidableEq, Repr

/-- The program of a request. -/
abbrev Task := Proc Mark PyError Db

/-! ## Actors -/

/-- A user's id as `parse_id` reads it: a number, or something that no integer column takes, with
what `int()` makes of it. -/
inductive ParsedId where
  | number (n : Nat)
  | other (asInt : Except PyError Int)

/-- `int(parse_id(id))`. -/
def ParsedId.toInt : ParsedId → Except PyError Int
  | .number n => .ok n
  | .other asInt => asInt

/-- The id as the parameter of an integer column. -/
def ParsedId.column : ParsedId → Except PyError Nat
  | .number n => .ok n
  | .other _ => .error .databaseError

/-- The id is this number. -/
def ParsedId.is (id : ParsedId) (n : Nat) : Bool :=
  match id with
  | .number m => m = n
  | .other _ => false

/-- The user of a request, and their id as it is read. -/
structure Actor where
  user : Authz.CurrentUser
  id : ParsedId

/-- `user.roles or [user.role]`. -/
def Actor.roles (a : Actor) : List String :=
  if a.user.roles = [] then [a.user.role] else a.user.roles

/-- The actor has one of the roles by name. -/
def Actor.isOneOf (a : Actor) (names : List String) : Bool := a.roles.any (· ∈ names)

/-- A value that may be an exception. -/
def ofExcept {α : Type} : Except PyError α → Task α
  | .ok a => .ret a
  | .error e => .fail e

/-! ## Events -/

def EventStatus.text : EventStatus → String
  | .draft => "draft"
  | .resourcePlanning => "resource_planning"
  | .proposed => "proposed"
  | .approved => "approved"
  | .financeApproval => "finance_approval"
  | .finalReview => "final_review"
  | .published => "published"

/-- A class that an event is for, as the routes show it. -/
structure ClassMapping where
  id : Nat
  classId : Nat
  ticketPrice : Money
  className : String
  levelName : String
  studentCount : Nat
  deriving DecidableEq, Repr

/-- An event with the classes that it is for. -/
structure Event where
  row : EventRow
  classMappings : List ClassMapping
  deriving DecidableEq, Repr

/-- A class map joined with its class and the level of that. -/
def classMapping (t : Tables) (m : EventClassRow) : Option ClassMapping := do
  let c ← t.class? m.classId
  let l ← t.level? c.levelId
  return {
    id := m.id, classId := m.classId, ticketPrice := m.ticketPrice, className := c.name
    levelName := l.name, studentCount := t.students.countP fun s => s.classId = some m.classId }

/-- The classes of an event. -/
def classMappings (t : Tables) (eventId : Nat) : List ClassMapping :=
  (t.eventClasses.filter fun m => m.eventId = eventId).filterMap (classMapping t)

namespace TenantRepository

def getEventById (eventId : Nat) : Task (Option Event) := do
  match ← Proc.look fun d => d.val.event? eventId with
  | none => return none
  | some row =>
    let classMappings ← Proc.look fun d => classMappings d.val eventId
    return some { row, classMappings }

/-- A notification of an event. -/
def createNotification (eventId recipientUserId : Nat) (titleOverride : Option String) :
    Prog Unit :=
  stmt fun t =>
    { t with
      notifications :=
        t.notifications ++ [{ id := t.seq.notification, eventId, recipientUserId, titleOverride }]
      seq := { t.seq with notification := t.seq.notification + 1 } }

/-- `SELECT COUNT(*) FROM students WHERE class_id = ANY($1)`. -/
def getStudentCountForClasses (t : Tables) (classIds : List Nat) : Nat :=
  t.students.countP fun s => s.classId.any fun c => c ∈ classIds

/-- `SELECT id FROM users WHERE role = 'manager'`. -/
def getAllManagers (t : Tables) : List Nat :=
  (t.users.filter fun u => u.role = "manager").map UserRow.id

/-- `SELECT id FROM class WHERE head_teacher_id = $1`. -/
def getClassesByHeadTeacher (t : Tables) (teacherId : Nat) : List Nat :=
  (t.classes.filter fun c => c.headTeacherId = some teacherId).map ClassRow.id

end TenantRepository

/-! ## Permissions -/

/-- What an actor may want to do with an event. `edit_resources` is asked for and granted by no
branch. -/
inductive EventRight where
  | read
  | editDraft
  | editResources
  deriving DecidableEq, Repr

namespace TenantService

/-- Does the role let its holder read an event of this status, whoever created it? -/
def roleReads (status : EventStatus) (role : String) : Bool :=
  (role ∈ ["parent", "student"] ∧ status = .published) ∨
  (role ∈ ["teacher", "event_teacher"] ∧ status ∈ [.published, .approved, .proposed,
    .finalReview]) ∨
  (role = "manager" ∧ status ≠ .draft)

/-- The ids of head teachers are not among the columns of a class mapping, so that of the actors who
are no administrators only the creator reads a draft. -/
def checkEventPermission (actor : Actor) (event : EventRow) (right : EventRight) :
    Except PyError Bool := do
  let roles := actor.roles
  let isOwner := decide ((event.createdBy : Int) = (← actor.id.toInt))
  if actor.isOneOf ["super_admin", "school_admin", "admin", "*"] then
    return true
  match right with
  | .read =>
    if event.status = .draft then
      return isOwner
    return roles.any (roleReads event.status) || "event:read" ∈ roles
  | .editDraft =>
    return event.status = .draft && isOwner &&
      (actor.isOneOf ["teacher", "event_teacher"] || "event:edit" ∈ roles)
  | .editResources => return false

/-- `int(round(0.8 * n))`: no multiple of a fifth is halfway between two integers. -/
def attendance (students : Nat) : Nat := (8 * students + 5) / 10

def getPredictedAttendance (classIds : List Nat) : Task Nat := do
  if classIds = [] then
    return attendance 0
  let total ← Proc.look fun d => TenantRepository.getStudentCountForClasses d.val classIds
  return attendance total

end TenantService

namespace EventService

/-- `_SUBSIDY_VISIBLE_ROLES` and `_EDIT_OVERRIDE_ROLES`. -/
def privileged : List String := ["school_admin", "manager"]

def isEditable (actor : Actor) (event : EventRow) : Except PyError Bool := do
  if ← TenantService.checkEventPermission actor event .editDraft then
    return true
  if ← TenantService.checkEventPermission actor event .editResources then
    return true
  return actor.isOneOf privileged

def notEditable : String :=
  "Access denied. Event can only be modified in draft status by its owner, " ++
  "or in resource planning by event teacher."

def requireEditable (actor : Actor) (event : EventRow) : Task Unit := do
  let editable ← ofExcept (isEditable actor event)
  Proc.failIf (¬editable) (.permissionError notEditable)

/-- Hide the amounts from who is neither a manager nor a school administrator. -/
def maskFinancials (event : Event) (actor : Actor) : Option Money × Option Money :=
  if actor.isOneOf privileged then (some event.row.schoolSubsidy, event.row.totalCost)
  else (none, none)

/-- What the subsidy is to be: only a school administrator or a manager sets it. -/
def resolveSubsidy (payload : Money) (actor : Actor) (existing : Money) : Money :=
  if actor.isOneOf privileged then payload else existing

end EventService

/-! ## Answers -/

/-- `str(exc)`. What the database says is left out. -/
def PyError.text : PyError → String
  | .valueError msg => msg
  | .permissionError msg => msg
  | .typeError msg => msg
  | .overflowError msg => msg
  | .runtimeError msg => msg
  | .httpException status detail => toString status ++ ": " ++ detail
  | .databaseError => ""

/-- How a route answers an exception: with `value` for a `ValueError` and `permission` for a
`PermissionError`, where it catches them, and with 500 otherwise. -/
def httpError (value permission : Nat) : PyError → PyError
  | .httpException status detail => .httpException status detail
  | .valueError msg => .httpException value msg
  | .permissionError msg => .httpException permission msg
  | e => .httpException 500 (PyError.text e)

/-- What a route answers about an event. -/
structure EventResponse where
  id : Nat
  title : String
  description : String
  address : Option String
  eventMapId : Option Int
  schoolSubsidy : Option Money
  date : Timestamp
  createdBy : Nat
  createdAt : Timestamp
  classMappings : List ClassMapping := []
  status : EventStatus := .draft
  predictedAttendance : Option Int := none
  managerReviewerId : Option Nat := none
  financeReviewerId : Option Nat := none
  totalCost : Option Money := none
  submittedAt : Option Timestamp := none
  managerApprovedAt : Option Timestamp := none
  financePricedAt : Option Timestamp := none
  publishedAt : Option Timestamp := none
  rejectionReason : Option String := none
  deriving DecidableEq, Repr

/-- `EventResponse(**event)` with the two amounts as given. -/
def EventResponse.ofEvent (event : Event) (amounts : Option Money × Option Money) :
    EventResponse where
  id := event.row.id
  title := event.row.title
  description := event.row.description
  address := event.row.address
  eventMapId := event.row.eventMapId
  schoolSubsidy := amounts.1
  date := event.row.date
  createdBy := event.row.createdBy
  createdAt := event.row.createdAt
  classMappings := event.classMappings
  status := event.row.status
  predictedAttendance := event.row.predictedAttendance
  managerReviewerId := event.row.managerReviewerId
  financeReviewerId := event.row.financeReviewerId
  totalCost := amounts.2
  submittedAt := event.row.submittedAt
  managerApprovedAt := event.row.managerApprovedAt
  financePricedAt := event.row.financePricedAt
  publishedAt := event.row.publishedAt
  rejectionReason := event.row.rejectionReason

/-- The event as it is read, its amounts included. -/
def EventResponse.plain (event : Event) : EventResponse :=
  .ofEvent event (some event.row.schoolSubsidy, event.row.totalCost)

/-- The answer to an event that may have gone in the meantime: `EventResponse(**None)` raises. -/
def respond : Option Event → Task EventResponse
  | some event => .ret (.plain event)
  | none => .fail (.typeError "argument after ** must be a mapping, not NoneType")

end Sams.Trips
