import Sams.Trips.Events

/-!
# The event workflow

`transition_event` reads the event, looks its status and the action up in the transition table, asks
for the role and the preconditions, notifies people one by one, and writes the new status with what
belongs to it in one `UPDATE` by the id. The routes over it choose the action.

The writes take for granted that the event still has the status that was read.
-/

namespace Sams.Trips

open School Programs Interleaving

/-! ## The transition table -/

/-- An action of the workflow, by the names that the table knows. -/
inductive EventAction where
  | submitForApproval
  | propose
  | submitToManager
  | submitToEventTeacher
  | managerApprove
  | approve
  | managerReject
  | reject
  | teacherPublish
  | publish
  | submit
  | managerPublish
  /-- A name that the table does not know. -/
  | other (name : String)
  deriving DecidableEq, Repr

def EventAction.text : EventAction → String
  | .submitForApproval => "submit_for_approval"
  | .propose => "propose"
  | .submitToManager => "submit_to_manager"
  | .submitToEventTeacher => "submit_to_event_teacher"
  | .managerApprove => "manager_approve"
  | .approve => "approve"
  | .managerReject => "manager_reject"
  | .reject => "reject"
  | .teacherPublish => "teacher_publish"
  | .publish => "publish"
  | .submit => "submit"
  | .managerPublish => "manager_publish"
  | .other name => name

/-- `TRANSITIONS`: the next status and the role that the action asks for. -/
def transitions : EventStatus → EventAction → Option (EventStatus × String)
  | .draft, .submitForApproval => some (.proposed, "teacher")
  | .draft, .propose => some (.proposed, "teacher")
  | .draft, .submitToManager => some (.proposed, "teacher")
  | .draft, .submitToEventTeacher => some (.proposed, "teacher")
  | .proposed, .managerApprove => some (.approved, "manager")
  | .proposed, .approve => some (.approved, "manager")
  | .proposed, .managerReject => some (.draft, "manager")
  | .proposed, .reject => some (.draft, "manager")
  | .approved, .teacherPublish => some (.published, "teacher")
  | .approved, .publish => some (.published, "teacher")
  | .approved, .submit => some (.published, "teacher")
  | .approved, .managerPublish => some (.published, "manager")
  | _, _ => none

/-- `ACTION_PERMISSIONS`: the permissions that allow an action without the role. -/
def actionPermissions : EventAction → List String
  | .submitForApproval | .propose | .submitToManager | .submitToEventTeacher =>
    ["event:submit", "event:propose"]
  | .managerApprove | .approve | .managerReject | .reject => ["event:review"]
  | .teacherPublish | .publish | .submit | .managerPublish => ["event:publish"]
  | .other _ => []

/-- Who may take the action. -/
def allowedFor (action : EventAction) (requiredRole : String) : List String :=
  ["school_admin", "super_admin", requiredRole] ++
    (if requiredRole = "teacher" then ["event_teacher"] else []) ++ actionPermissions action

/-- The actions that submit a draft. -/
def submitting : List EventAction :=
  [.submitForApproval, .propose, .submitToManager, .submitToEventTeacher]

/-- The submissions that only the creator may make, and only for some class. -/
def submittingOwn : List EventAction := [.submitForApproval, .propose, .submitToEventTeacher]

def approving : List EventAction := [.managerApprove, .approve]

def rejecting : List EventAction := [.managerReject, .reject]

/-! ## The side effects -/

/-- What the `UPDATE` is to write: a field that is not given keeps its value, the reason
of a rejection apart. -/
structure UpdateFields where
  status : EventStatus
  predictedAttendance : Option Int := none
  managerReviewerId : Option ParsedId := none
  submittedAt : Option Timestamp := none
  managerApprovedAt : Option Timestamp := none
  publishedAt : Option Timestamp := none
  rejectionReason : Option String := none

/-- `SET status = $1, … = COALESCE($n, …), rejection_reason = $10`. -/
def UpdateFields.write (fields : UpdateFields) (reviewer : Option Nat) (e : EventRow) : EventRow :=
  { e with
    status := fields.status
    predictedAttendance := fields.predictedAttendance.or e.predictedAttendance
    managerReviewerId := reviewer.or e.managerReviewerId
    submittedAt := fields.submittedAt.or e.submittedAt
    managerApprovedAt := fields.managerApprovedAt.or e.managerApprovedAt
    publishedAt := fields.publishedAt.or e.publishedAt
    rejectionReason := fields.rejectionReason }

namespace TenantRepository

/-- `UPDATE event SET … WHERE id = $11`, with a reviewer that the column takes. -/
def writeEventStatus (eventId : Nat) (fields : UpdateFields) (reviewer : Option Nat) : Prog Unit :=
  stmt fun t =>
    { t with events := Rows.updateWhere (fun e => e.id = eventId) (fields.write reviewer) t.events }

def updateEventStatus (eventId : Nat) (fields : UpdateFields) : Prog Unit :=
  match fields.managerReviewerId with
  | none => writeEventStatus eventId fields none
  | some (.number n) => writeEventStatus eventId fields (some n)
  | some (.other _) => throw .databaseError

/-- `SELECT id FROM students WHERE class_id = ANY($1)`. -/
def getStudentsInClasses (t : Tables) (classIds : List Nat) : List Nat :=
  (t.students.filter fun s => s.classId.any fun c => c ∈ classIds).map StudentRow.id

/-- `SELECT parent_id FROM student_parent_map WHERE student_id = $1`. -/
def getParentsOf (t : Tables) (studentId : Nat) : List Nat :=
  (t.studentParents.filter fun m => m.studentId = studentId).map StudentParentRow.parentId

end TenantRepository

namespace TenantService

open TenantRepository

/-- The status of an event. -/
def statusOf (d : Db) (eventId : Nat) : Option EventStatus :=
  (d.val.event? eventId).map EventRow.status

/-- Notify a student or a parent that the event is published. -/
def announce (eventId : Nat) (event : Event) (recipient : Nat) (title : String) : Task Unit :=
  Proc.marked (.announce eventId event.row.status)
    (createNotification eventId recipient (some title))

/-- Notify every student of the event's classes and every parent linked to one of them. -/
def announceAll (eventId : Nat) (event : Event) (studentTitle parentTitle : String) :
    Task Unit := do
  let classIds := event.classMappings.map ClassMapping.classId
  if classIds = [] then
    return ()
  let students ← Proc.look fun d => getStudentsInClasses d.val classIds
  students.forM fun s => do
    announce eventId event s studentTitle
    let parents ← Proc.look fun d => getParentsOf d.val s
    parents.forM fun p => announce eventId event p parentTitle

/-- What must hold beyond the role. -/
def checkPreconditions (event : Event) (action : EventAction) (actor : Actor)
    (reason : Option String) : Task Unit := do
  if action ∈ submittingOwn then
    let actorId ← ofExcept actor.id.toInt
    Proc.failIf ((event.row.createdBy : Int) ≠ actorId ∧
      ¬actor.isOneOf ["school_admin", "super_admin"])
      (.permissionError "Only the event creator can submit it for approval")
    Proc.failIf (event.classMappings = [])
      (.valueError "At least one class must be selected before submitting")
  else if action ∈ rejecting then
    Proc.failIf ((Text.nonEmpty (reason.map Text.strip)).isNone)
      (.valueError ("A non-empty reason is required for action '" ++ action.text ++ "'"))

/-- The attendance, where the event is for some class. -/
def predicted (classIds : List Nat) : Task (Option Int) :=
  if classIds = [] then return none
  else (fun n => some (Int.ofNat n)) <$> getPredictedAttendance classIds

/-- Submitting: the attendance is predicted and the managers are notified. -/
def submitEffects (eventId : Nat) (event : Event) (next : EventStatus) (now : Timestamp) :
    Task UpdateFields := do
  let predictedAttendance ← predicted (event.classMappings.map ClassMapping.classId)
  let managers ← Proc.look fun d => getAllManagers d.val
  managers.forM fun m => Proc.once (createNotification eventId m
    (some ("New event proposal: '" ++ event.row.title ++ "' submitted for approval")))
  return { status := next, predictedAttendance, submittedAt := some now }

/-- The side effects of an action, and what the `UPDATE` is to write. -/
def effects (eventId : Nat) (event : Event) (next : EventStatus) (action : EventAction)
    (actor : Actor) (reason : Option String) (now : Timestamp) : Task UpdateFields := do
  let title := event.row.title
  if action ∈ submitting then
    submitEffects eventId event next now
  else if action ∈ approving then
    Proc.once (createNotification eventId event.row.createdBy
      (some ("Event proposal '" ++ title ++
        "' has been approved by Manager! You can now publish it.")))
    return { status := next, managerApprovedAt := some now, managerReviewerId := some actor.id }
  else if action ∈ rejecting then
    Proc.once (createNotification eventId event.row.createdBy
      (some ("Event '" ++ title ++ "' rejected by manager. Reason: " ++ Text.showOption reason)))
    return { status := next, rejectionReason := some (Text.strip (reason.getD "")) }
  else if action = .teacherPublish ∨ action = .publish then
    announceAll eventId event ("New school trip published: '" ++ title ++ "' – enroll now!")
      ("Your child's school trip '" ++ title ++ "' is now open for enrollment!")
    return { status := next, publishedAt := some now }
  else if action = .managerPublish then
    announceAll eventId event ("New Event Published: '" ++ title ++ "'")
      ("New Child Event: '" ++ title ++ "' has been published!")
    return { status := next, publishedAt := some now }
  else
    -- no branch is for `submit`, which publishes all the same
    return { status := next }

/-- Move an event on by an action, at the time `now`. -/
def transitionEvent (eventId : Nat) (action : EventAction) (actor : Actor) (reason : Option String)
    (now : Timestamp) : Task (Option Event) := do
  match ← getEventById eventId with
  | none => Proc.fail (.valueError "Event not found")
  | some event =>
    match transitions event.row.status action with
    | none => Proc.fail (.valueError ("Action '" ++ action.text ++ "' is not allowed in status '" ++
        EventStatus.text event.row.status ++ "'"))
    | some (next, requiredRole) => do
      Proc.failIf (¬actor.isOneOf (allowedFor action requiredRole))
        (.permissionError ("Role '" ++ actor.user.role ++
          "' is not authorized to perform action '" ++ action.text ++ "'"))
      checkPreconditions event action actor reason
      let fields ← effects eventId event next action actor reason now
      Proc.marked (.status eventId event.row.status next) (updateEventStatus eventId fields)
      getEventById eventId

end TenantService

/-- What a call of `transition_event` is given beside the event. -/
structure TransitionCall where
  action : EventAction
  actor : Actor
  reason : Option String
  now : Timestamp

def TransitionCall.program (eventId : Nat) (c : TransitionCall) : Task (Option Event) :=
  TenantService.transitionEvent eventId c.action c.actor c.reason c.now

/-! ## The routes -/

namespace EventService

def resolveSubmitAction (status : EventStatus) (actor : Actor) : Except PyError EventAction :=
  if status = .draft ∧
      (actor.user.hasAnyRole ["teacher", "school_admin"] ∨ actor.user.hasRole "event:submit") then
    .ok .submitForApproval
  else if status = .approved ∧ actor.user.hasAnyRole ["teacher", "school_admin", "manager"] then
    .ok .teacherPublish
  else .error
    (.permissionError ("Cannot submit event in '" ++ EventStatus.text status ++ "' status. " ++
    "Only draft events can be submitted for manager approval."))

def resolvePublishAction (actor : Actor) : EventAction :=
  if actor.user.hasRole "manager" then .managerPublish else .teacherPublish

end EventService

/-- `payload.decision` of a manager's or an event teacher's decision. -/
inductive Decision where
  | approve
  | reject
  deriving DecidableEq, Repr

namespace EventsRouter

open TenantRepository

/-- Most routes ask for a tenant first. -/
def requireTenant (actor : Actor) : Task Unit :=
  Proc.failIf (Text.nonEmpty actor.user.tenantId).isNone
    (.httpException 400 "Tenant context required")

def submitEvent (actor : Actor) (eventId : Nat) (now : Timestamp) : Task EventResponse := do
  requireTenant actor
  Proc.wrap (httpError 400 403) do
    match ← getEventById eventId with
    | none => Proc.fail (.httpException 404 "Event not found")
    | some event =>
      let action ← ofExcept (EventService.resolveSubmitAction event.row.status actor)
      respond (← TenantService.transitionEvent eventId action actor none now)

def managerDecision (actor : Actor) (eventId : Nat) (decision : Decision) (reason : Option String)
    (now : Timestamp) : Task EventResponse := do
  requireTenant actor
  Proc.wrap (httpError 400 403) do
    let action := if decision = .approve then .managerApprove else .managerReject
    respond (← TenantService.transitionEvent eventId action actor reason now)

def teacherPublishEvent (actor : Actor) (eventId : Nat) (now : Timestamp) : Task EventResponse := do
  requireTenant actor
  Proc.failIf (¬actor.user.hasAnyRole
      ["teacher", "event_teacher", "manager", "school_admin", "super_admin"])
    (.httpException 403 "Only teachers, managers, or admins can publish approved events")
  Proc.wrap (httpError 400 403) do
    let action := EventService.resolvePublishAction actor
    respond (← TenantService.transitionEvent eventId action actor none now)

/-- The action of this route is not in the table: it always answers with an error. -/
def eventTeacherDecision (actor : Actor) (eventId : Nat) (decision : Decision)
    (reason : Option String) (now : Timestamp) : Task EventResponse := do
  requireTenant actor
  Proc.wrap (httpError 400 403) do
    Proc.failIf (decision ≠ .reject) (.valueError
      ("Event teacher can only reject/return to draft here. Use /submit to approve."))
    let action := .other "event_teacher_reject"
    respond (← TenantService.transitionEvent eventId action actor reason now)

end EventsRouter

end Sams.Trips
