import Sams.Trips.Events

/-!
# Enrollments and payments

The requests around one enrollment: it is requested or entered, decided on by a parent and then by
the teacher, paid, and cancelled. Each request reads, decides and writes in statements of its own. A
decision is written by the id of the enrollment, a new enrollment takes the place of one that has
appeared, and a payment is set to paid by the id of the enrollment.
-/

namespace Sams.Trips

open School Programs Interleaving

/-! ## Enrollments as they are read -/

def EnrollmentState.text : EnrollmentState → String
  | .requestedByStudent => "requested_by_student"
  | .approvedByParent => "approved_by_parent"
  | .approvedByTeacher => "approved_by_teacher"
  | .rejectedByParent => "rejected_by_parent"
  | .rejectedByTeacher => "rejected_by_teacher"

/-- An enrollment joined with the student, the class and the event. -/
structure EnrollmentDetails where
  row : EnrollmentRow
  studentName : String
  className : String
  eventTitle : String
  ticketPrice : Money
  eventCreatedBy : Nat
  deriving DecidableEq, Repr

namespace TenantRepository

def enrollment? (t : Tables) (id : Nat) : Option EnrollmentRow :=
  t.enrollments.find? fun n => n.id = id

def getClassMapById (t : Tables) (mapId : Nat) : Option EventClassRow :=
  t.eventClasses.find? fun m => m.id = mapId

def getEnrollmentById (t : Tables) (enrollmentId : Nat) : Option EnrollmentDetails := do
  let row ← enrollment? t enrollmentId
  let s ← t.student? row.studentId
  let m ← getClassMapById t row.eventClassMapId
  let c ← t.class? m.classId
  let e ← t.event? m.eventId
  return { row, studentName := s.name, className := c.name, eventTitle := e.title
           ticketPrice := m.ticketPrice, eventCreatedBy := e.createdBy }

/-- The enrollments of a student in any class of the event. -/
def getEnrollmentsForStudentAndEvent (t : Tables) (studentId eventId : Nat) : List EnrollmentRow :=
  t.enrollments.filter fun n => n.studentId = studentId ∧
    (getClassMapById t n.eventClassMapId).any fun m => m.eventId = eventId

def getPaymentByEnrollment (t : Tables) (enrollmentId : Nat) : Option PaymentRow :=
  t.payments.find? fun p => p.enrollmentId = enrollmentId

def isStudentLinkedToParent (t : Tables) (studentId parentId : Nat) : Bool :=
  t.studentParents.any fun m => m.studentId = studentId ∧ m.parentId = parentId

def canParentApproveForStudent (t : Tables) (studentId parentId : Nat) : Bool :=
  t.studentParents.any fun m => m.studentId = studentId ∧ m.parentId = parentId ∧ m.canApprove

/-- `INSERT INTO enrollment … ON CONFLICT (student_id, event_class_map_id) DO UPDATE SET state =
EXCLUDED.state RETURNING id`. -/
def createEnrollment (studentId eventClassMapId : Nat) (state : EnrollmentState)
    (teacherId parentId : Option Nat) : Prog Nat := do
  match ← read fun t => t.enrollments.find? fun n =>
      n.studentId = studentId ∧ n.eventClassMapId = eventClassMapId with
  | some existing =>
    stmt fun t =>
      { t with enrollments :=
          Rows.updateWhere (fun n => n.id = existing.id) (fun n => { n with state }) t.enrollments }
    return existing.id
  | none =>
    let id ← read fun t => t.seq.enrollment
    stmt fun t =>
      { t with
        enrollments :=
          t.enrollments ++ [{ id, studentId, eventClassMapId, state, teacherId, parentId }]
        seq := { t.seq with enrollment := t.seq.enrollment + 1 } }
    return id

/-- `UPDATE enrollment SET state = $1, … WHERE id = $n`: only the ids that are given are written. -/
def updateEnrollmentState (enrollmentId : Nat) (state : EnrollmentState)
    (teacherId parentId : Option Nat) : Prog Unit :=
  stmt fun t => { t with
    enrollments := Rows.updateWhere (fun n => n.id = enrollmentId) (fun n =>
      { n with
        state
        teacherId := teacherId.or n.teacherId
        parentId := parentId.or n.parentId }) t.enrollments }

/-- `INSERT INTO payments (enrollment_id, amount, status)`, which names no currency. -/
def createPayment (enrollmentId : Nat) (amount : Money) (status : PaymentStatus) : Prog Unit :=
  stmt fun t =>
    { t with
      payments :=
        t.payments ++ [{ id := t.seq.payment, enrollmentId, amount, status, currency := none }]
      seq := { t.seq with payment := t.seq.payment + 1 } }

/-- `UPDATE payments SET status = 'paid' WHERE enrollment_id = $1`. -/
def setPaid (enrollmentId : Nat) : Prog Unit :=
  stmt fun t => { t with
    payments := Rows.updateWhere (fun p => p.enrollmentId = enrollmentId)
      (fun p => { p with status := .paid }) t.payments }

/-- `DELETE FROM enrollment WHERE id = $1`. -/
def deleteEnrollment (enrollmentId : Nat) : Prog Unit :=
  stmt fun t => t.deleteEnrollments fun n => n.id = enrollmentId

end TenantRepository

/-! ## Requesting -/

namespace TenantService

open TenantRepository

/-- A pending payment for an enrollment that costs something. -/
def createPendingPayment (enrollmentId : Nat) : Task Unit := do
  match ← Proc.look fun d => getEnrollmentById d.val enrollmentId with
  | none => return ()
  | some details =>
    if 0 < details.ticketPrice then
      Proc.once (createPayment enrollmentId details.ticketPrice .pending)
    else
      return ()

/-- Enter the enrollment. What the student is enrolled in already is read and checked before. -/
def enroll (by_ : Authz.CurrentUser) (studentId eventClassMapId : Nat) (state : EnrollmentState)
    (teacherId parentId : Option ParsedId) : Task Nat := do
  let teacherId ← ofExcept (teacherId.mapM ParsedId.column)
  let parentId ← ofExcept (parentId.mapM ParsedId.column)
  let enrollmentId ← Proc.marked (.enroll by_ studentId eventClassMapId state)
    (createEnrollment studentId eventClassMapId state teacherId parentId)
  createPendingPayment enrollmentId
  return enrollmentId

def enrollStudent (by_ : Authz.CurrentUser) (studentId eventClassMapId : Nat)
    (state : EnrollmentState) (teacherId parentId : Option ParsedId) : Task Nat := do
  match ← Proc.look fun d => getClassMapById d.val eventClassMapId with
  | none => Proc.fail (.valueError "Event class mapping not found")
  | some classMap =>
    let event ← getEventById classMap.eventId
    Proc.failIf (¬event.any fun e => e.row.status = .published)
      (.valueError "Enrollment is only allowed for published events")
    match ← Proc.look fun d => d.val.student? studentId with
    | none => Proc.fail (.valueError "Student not found")
    | some student =>
      let existing ← Proc.look fun d =>
        getEnrollmentsForStudentAndEvent d.val studentId classMap.eventId
      match existing.find? fun n => n.eventClassMapId = eventClassMapId with
      | some n => return n.id
      | none =>
        Proc.failIf (existing ≠ []) (.valueError "Student is already enrolled in this event")
        Proc.failIf (student.classId ≠ some classMap.classId)
          (.valueError "Student is not in the class mapped to this event")
        enroll by_ studentId eventClassMapId state teacherId parentId

end TenantService

/-- A `ValueError` is answered with 400. -/
def badRequest : PyError → PyError
  | .valueError msg => .httpException 400 msg
  | e => e

/-- The answer made of an enrollment, which may have gone in the meantime. -/
def respondEnrollment : Option EnrollmentDetails → Task EnrollmentDetails
  | some details => .ret details
  | none => .fail (.typeError "argument after ** must be a mapping, not NoneType")

namespace StudentsRouter

open TenantRepository

/-- What an enrollment is entered with. -/
structure Entry where
  state : EnrollmentState
  teacherId : Option ParsedId := none
  parentId : Option ParsedId := none

/-- A parent who may approve enters an approved enrollment, one who may not a request, and a teacher
who is no linked parent decides directly. -/
def entry (actor : Actor) (studentId : Nat) : Task Entry := do
  if actor.user.hasRole "parent" then
    let parentId ← ofExcept actor.id.column
    let linked ← Proc.look fun d => isStudentLinkedToParent d.val studentId parentId
    if linked then
      let canApprove ← Proc.look fun d => canParentApproveForStudent d.val studentId parentId
      return if canApprove then { state := .approvedByParent, parentId := some actor.id }
        else { state := .requestedByStudent }
    else if actor.user.hasRole "teacher" then
      return { state := .approvedByTeacher, teacherId := some actor.id }
    else
      Proc.fail (.httpException 403 "Parent is not linked to this student")
  else if actor.user.hasRole "teacher" then
    return { state := .approvedByTeacher, teacherId := some actor.id }
  else
    return { state := .requestedByStudent }

def enrollStudent (actor : Actor) (studentId eventClassMapId : Nat) : Task EnrollmentDetails := do
  let entry ← entry actor studentId
  Proc.wrap badRequest do
    let enrollId ← TenantService.enrollStudent actor.user studentId eventClassMapId entry.state
      entry.teacherId entry.parentId
    respondEnrollment (← Proc.look fun d => getEnrollmentById d.val enrollId)

/-! ## Deciding -/

/-- `payload.state`: a state by its name, or a name that is none. -/
inductive StateName where
  | state (s : EnrollmentState)
  | other (name : String)
  deriving DecidableEq, Repr

/-- The state that a decision writes, if it is one of two. -/
def StateName.oneOf (name : StateName) (s s' : EnrollmentState) : Option EnrollmentState :=
  if name = .state s then some s else if name = .state s' then some s' else none

def httpError400 (detail : String) : PyError := .httpException 400 detail

/-- The decision of a parent who may approve. -/
def parentDecision (current : EnrollmentState) (requested : StateName) :
    Except PyError EnrollmentState :=
  if current ≠ .requestedByStudent then
    throw (httpError400 ("Parent cannot approve/reject an enrollment in '" ++
      EnrollmentState.text current ++ "' state"))
  else
    match requested.oneOf .approvedByParent .rejectedByParent with
    | none => throw (httpError400
        "Parent can only transition enrollment to approved_by_parent or rejected_by_parent")
    | some state => return state

/-- The decision of the teacher who created the event. -/
def teacherDecision (actor : Actor) (details : EnrollmentDetails) (requested : StateName) :
    Except PyError EnrollmentState :=
  if ¬actor.id.is details.eventCreatedBy then
    throw (.httpException 403 "Only the trip's creator may approve or reject its enrollments")
  else if details.row.state = .requestedByStudent then
    throw (httpError400 "Enrollment must be approved by a parent before teacher approval")
  else if details.row.state ≠ .approvedByParent then
    throw (httpError400 ("Teacher cannot approve/reject an enrollment in '" ++
      EnrollmentState.text details.row.state ++ "' state"))
  else
    match requested.oneOf .approvedByTeacher .rejectedByTeacher with
    | none => throw (httpError400
        "Teacher can only transition enrollment to approved_by_teacher or rejected_by_teacher")
    | some state => return state

/-- What the actor is to the student, as a parent. -/
structure Parenthood where
  parentId : Option ParsedId := none
  mayApprove : Bool := false
  linked : Bool := false

def parenthood (actor : Actor) (studentId : Nat) : Task Parenthood := do
  if actor.user.hasRole "parent" then
    let parentId ← ofExcept actor.id.column
    let mayApprove ← Proc.look fun d => canParentApproveForStudent d.val studentId parentId
    if mayApprove then
      return { parentId := some actor.id, mayApprove }
    else
      let linked ← Proc.look fun d => isStudentLinkedToParent d.val studentId parentId
      return { parentId := some actor.id, linked }
  else
    return {}

/-- The state to write and the teacher who decides, where one does. -/
def decision (actor : Actor) (parent : Parenthood) (details : EnrollmentDetails)
    (requested : StateName) : Except PyError (EnrollmentState × Option ParsedId) :=
  if parent.mayApprove then
    (fun s => (s, none)) <$> parentDecision details.row.state requested
  else if actor.user.hasRole "teacher" then
    (fun s => (s, some actor.id)) <$> teacherDecision actor details requested
  else if parent.linked then
    throw (.httpException 403 ("This parent is linked to the student but is not authorized to " ++
      "approve or reject their enrollments"))
  else
    throw (.httpException 403 "Unauthorized role for approval")

def updateEnrollmentApproval (actor : Actor) (enrollmentId : Nat) (requested : StateName) :
    Task EnrollmentDetails := do
  match ← Proc.look fun d => getEnrollmentById d.val enrollmentId with
  | none => Proc.fail (.httpException 404 "Enrollment not found")
  | some details =>
    let parent ← parenthood actor details.row.studentId
    let (state, teacherId) ← ofExcept (decision actor parent details requested)
    let teacherId ← ofExcept (teacherId.mapM ParsedId.column)
    let parentId ← ofExcept (parent.parentId.mapM ParsedId.column)
    Proc.marked (.decide enrollmentId details.row.state state)
      (updateEnrollmentState enrollmentId state teacherId parentId)
    respondEnrollment (← Proc.look fun d => getEnrollmentById d.val enrollmentId)

end StudentsRouter

/-! ## Cancelling and paying -/

namespace TenantService

open TenantRepository

/-- Who may cancel: an administrator, a teacher, a parent who may approve, and the student. -/
def requireCanceller (actor : Actor) (studentId : Nat) : Task Unit := do
  let roles := actor.user.roles
  if "school_admin" ∈ roles ∨ "teacher" ∈ roles then
    return ()
  else if "parent" ∈ roles then
    let parentId ← ofExcept actor.id.column
    let canApprove ← Proc.look fun d => canParentApproveForStudent d.val studentId parentId
    Proc.failIf (¬canApprove) (.permissionError
      "Only a parent authorized to approve for this student can cancel their enrollments")
  else if "student" ∈ roles then
    let userId ← ofExcept actor.id.toInt
    Proc.failIf ((studentId : Int) ≠ userId)
      (.permissionError "Students can only cancel their own enrollments")
  else
    Proc.fail (.permissionError "Unauthorized role to cancel enrollment")

/-- Tell the head teacher of the class. A class without one has nobody to tell, and the insert is
refused. -/
def notifyHeadTeacher (enrollment : EnrollmentDetails) : Task Unit := do
  match ← Proc.look fun d => getClassMapById d.val enrollment.row.eventClassMapId with
  | none => return ()
  | some classMap =>
    match ← Proc.look fun d => d.val.class? classMap.classId with
    | none => return ()
    | some classInfo =>
      match classInfo.headTeacherId with
      | none => Proc.fail .databaseError
      | some headTeacherId =>
        let studentName := (Text.nonEmpty (some enrollment.studentName)).getD
          ("Student #" ++ toString enrollment.row.studentId)
        let eventTitle := (Text.nonEmpty (some enrollment.eventTitle)).getD "the event"
        Proc.once (createNotification classMap.eventId headTeacherId
          (some ("❌ Cancelled: " ++ studentName ++ " un-enrolled from '" ++ eventTitle ++ "'")))

def cancelEnrollment (actor : Actor) (enrollmentId : Nat) : Task Unit := do
  match ← Proc.look fun d => getEnrollmentById d.val enrollmentId with
  | none => Proc.fail (.valueError "Enrollment not found")
  | some enrollment =>
    requireCanceller actor enrollment.row.studentId
    let payment ← Proc.look fun d => getPaymentByEnrollment d.val enrollmentId
    Proc.failIf (payment.any fun p => p.status = .paid)
      (.valueError "Cannot cancel enrollment after payment has been completed")
    notifyHeadTeacher enrollment
    Proc.marked (.cancel enrollmentId) (deleteEnrollment enrollmentId)

def payEnrollment (enrollmentId : Nat) : Task Bool := do
  match ← Proc.look fun d => getPaymentByEnrollment d.val enrollmentId with
  | none => return false
  | some _ =>
    Proc.marked (.pay enrollmentId) (setPaid enrollmentId)
    return true

end TenantService

def StudentsRouter.cancelEnrollment (actor : Actor) (enrollmentId : Nat) : Task Unit := do
  Proc.failIf ((Text.nonEmpty actor.user.tenantId).isNone ∧ ¬actor.user.hasRole "super_admin")
    (.httpException 400 "Tenant context required")
  Proc.wrap cancelError (TenantService.cancelEnrollment actor enrollmentId)
where
  cancelError : PyError → PyError
    | .permissionError msg => .httpException 403 msg
    | .valueError msg => .httpException 400 msg
    | e => e

def EventsRouter.payEnrollment (actor : Actor) (enrollmentId : Nat) : Task Unit := do
  Proc.failIf (actor.user.role ≠ "parent")
    (.httpException 403 "Only parents can make payments")
  Proc.wrap (httpError 500 500) do
    let success ← TenantService.payEnrollment enrollmentId
    Proc.failIf (¬success) (.httpException 400 "Failed to process payment")

end Sams.Trips
