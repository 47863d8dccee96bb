import Sams.Lib.Fanout
import Sams.Setup.Profile
import Sams.Trips.Enrollments
import Sams.Trips.Listing

/-!
# The family overview

All of a parent's children and their trips, at every school that they are a member of.
The schools are read side by side, a few at a time; a school whose reads fail has
a section of its own that says so.

`gather` is the fan-out of the library: the schedule is a list of turns. Of the three reads that one
school makes side by side the first to fail is taken to be the first of the list.
-/

namespace Sams.Family

open School Programs Runs Interleaving Trips Authz

/-! ## What a school has -/

/-- A tenant: its tables, and the `created_at` of its students and payments by their ids. -/
structure Site where
  state : Setup.State
  studentCreatedAt : Nat → Timestamp
  paymentCreatedAt : Nat → Timestamp

def Site.db (s : Site) : Db := Setup.schoolOf s.state

/-- A value of a row. -/
inductive Value where
  | null
  | number (n : Nat)
  | text (s : String)
  | time (t : Timestamp)
  deriving DecidableEq, Repr

abbrev Dict := List (String × Value)

def Value.ofText (s : Option String) : Value := s.elim .null .text

/-- The locale of a school, as `get_locale_summary` gives it to the overview. -/
structure LocaleSummary where
  schoolName : Option String
  currency : String
  timezone : Option String
  deriving DecidableEq, Repr

/-- `_CHILD_FIELDS`. -/
def childFields : List String := ["id", "name", "class_id", "class_name"]

/-- A row of `get_enrollments_for_parent`. -/
structure EnrollmentListing where
  row : EnrollmentRow
  studentName : String
  className : String
  eventTitle : String
  ticketPrice : Money
  deriving DecidableEq, Repr

/-- An enrollment of the overview: `_ENROLLMENT_FIELDS`. -/
structure FamilyEnrollment where
  id : Nat
  studentId : Nat
  studentName : String
  className : String
  eventClassMapId : Nat
  eventTitle : String
  eventDate : Option Timestamp
  eventStatus : Option EventStatus
  state : EnrollmentState
  ticketPrice : Money
  paymentStatus : Option PaymentStatus
  deriving DecidableEq, Repr

inductive SectionStatus where
  | ok
  | error
  deriving DecidableEq, Repr

/-- The section of one school. -/
structure SchoolSection where
  tenantId : String
  role : String
  status : SectionStatus
  errorMessage : Option String
  schoolName : Option String
  currency : Option String
  timezone : Option String
  children : List Dict
  enrollments : List FamilyEnrollment
  deriving DecidableEq, Repr

/-! ## The reads of one school -/

/-- `get_locale_summary`. -/
def getLocaleSummary (site : Site) : LocaleSummary :=
  let profile := site.state.val.current
  { schoolName := (Text.nonEmpty profile.displayName).or profile.legalName
    currency := profile.currency
    timezone := profile.timezone }

section User

variable [Unicode]

/-- `UPPER(email) = UPPER($1)`. -/
def userByEmail (t : Tables) (email : String) : Option UserRow :=
  if email = "" then none
  else t.users.find? fun u =>
    Unicode.sqlUpper u.email = Unicode.sqlUpper (Text.strip email)

end User

/-- The students that are linked to the parent. -/
def linkedStudents (t : Tables) (parentId : Nat) : List StudentRow :=
  t.students.filter fun s => t.studentParents.any fun m => m.studentId = s.id ∧
    m.parentId = parentId

/-- `get_linked_students_for_parent`, with the columns that no family page shows. -/
def childRow (site : Site) (s : StudentRow) : Dict :=
  let t := site.db.val
  [("id", .number s.id), ("name", .text s.name), ("class_id", s.classId.elim .null .number),
   ("gender", .ofText s.gender), ("birth_data", .ofText s.birthData),
   ("created_at", .time (site.studentCreatedAt s.id)),
   ("email", .ofText ((t.users.find? fun u => u.id = s.id).map UserRow.email)),
   ("class_name", .ofText ((s.classId.bind t.class?).map ClassRow.name))]

/-- `{k: c.get(k) for k in _CHILD_FIELDS}`. -/
def childEntry (row : Dict) : Dict := childFields.map fun k => (k, (row.lookup k).getD .null)

/-- An enrollment joined with its student, its class and its event. -/
def enrollmentListing (t : Tables) (n : EnrollmentRow) : Option EnrollmentListing := do
  let s ← t.student? n.studentId
  let m ← Trips.TenantRepository.getClassMapById t n.eventClassMapId
  let c ← t.class? m.classId
  let e ← t.event? m.eventId
  return { row := n, studentName := s.name, className := c.name, eventTitle := e.title
           ticketPrice := m.ticketPrice }

/-- `get_enrollments_for_user` of a parent: the enrollments of the students linked to them. -/
def enrollmentsForParent (t : Tables) (parentId : Nat) : List EnrollmentListing :=
  (t.enrollments.filter fun n => Trips.TenantRepository.isStudentLinkedToParent t n.studentId
    parentId).filterMap
    (enrollmentListing t)

/-- The parent as `get_events_for_user` takes them. -/
def asParent (userId : Nat) : Actor where
  user := { id := "", tenantId := none, role := "parent", email := "", roles := ["parent"] }
  id := .number userId

/-- `get_events_for_user(tenant_id, local_user_id, "parent")`. -/
def eventsForParent (d : Db) (userId : Nat) : Except PyError (List Event) :=
  match (TenantService.getEventsForUser (asParent userId)).seq d with
  | .ok events _ => .ok events
  | .error e _ => .error e

/-- `get_payments_by_enrollment_ids`: of each enrollment the newest payment. -/
def paymentOf (site : Site) (enrollmentId : Nat) : Option PaymentRow :=
  ((site.db.val.payments.filter fun p => p.enrollmentId = enrollmentId).insertionSort fun p q =>
    site.paymentCreatedAt q.id ≤ site.paymentCreatedAt p.id).head?

/-- `map_to_event`: of each class map the event that it was last seen with. -/
def mapToEvent (events : List Event) (mapId : Nat) : Option EventRow :=
  ((events.flatMap fun ev => ev.classMappings.map fun m => (m.id, ev.row)).reverse.find? fun p =>
    p.1 = mapId).map Prod.snd

def familyEnrollment (events : List Event) (payment : Nat → Option PaymentRow)
    (e : EnrollmentListing) :
    FamilyEnrollment where
  id := e.row.id
  studentId := e.row.studentId
  studentName := e.studentName
  className := e.className
  eventClassMapId := e.row.eventClassMapId
  eventTitle := e.eventTitle
  eventDate := (mapToEvent events e.row.eventClassMapId).map EventRow.date
  eventStatus := (mapToEvent events e.row.eventClassMapId).map EventRow.status
  state := e.row.state
  ticketPrice := e.ticketPrice
  paymentStatus := (payment e.row.id).map PaymentRow.status

/-! ## Failures -/

/-- The reads of one school. Opening its pool belongs to the first. -/
inductive Read where
  | summary
  | user
  | children
  | enrollments
  | events
  | payments
  deriving DecidableEq, Repr

/-- A read raises, or it does not come back in time. -/
inductive Failure where
  | raised (message : String)
  | timedOut
  deriving DecidableEq, Repr

/-- `str(exc)`. -/
def Failure.message : Failure → String
  | .raised message => message
  | .timedOut => ""

/-- What happens to the reads of a school. -/
abbrev Outage := Read → Option Failure

/-- A read that may fail. -/
def reading {α : Type} (outage : Outage) (r : Read) (answer : Except PyError α) :
    Except Failure α :=
  match outage r with
  | some f => .error f
  | none => answer.mapError fun e => .raised (PyError.text e)

section Fetch

variable [Unicode]

/-- `get_user_by_email` catches whatever its statements raise; a timeout is no `Exception` there. -/
def getUserByEmail (outage : Outage) (site : Site) (email : String) :
    Except Failure (Option UserRow) :=
  if email = "" then .ok none
  else match outage .user with
    | some (.raised _) => .ok none
    | some .timedOut => .error .timedOut
    | none => .ok (userByEmail site.db.val email)

/-- The section of a school where the parent is nobody yet. -/
def emptySection (m : Membership) (summary : LocaleSummary) : SchoolSection where
  tenantId := m.tenantId
  role := m.role
  status := .ok
  errorMessage := none
  schoolName := summary.schoolName
  currency := some summary.currency
  timezone := summary.timezone
  children := []
  enrollments := []

/-- `get_payments_for_enrollments`: without enrollments nothing is asked. -/
def getPaymentsForEnrollments (outage : Outage) (site : Site)
    (enrollments : List EnrollmentListing) :
    Except Failure (Nat → Option PaymentRow) :=
  if enrollments = [] then .ok fun _ => none else reading outage .payments (.ok (paymentOf site))

/-- The section of a user of the school, from their id on. -/
def fetchFamily (outage : Outage) (site : Site) (m : Membership) (summary : LocaleSummary)
    (userId : Nat) :
    Except Failure SchoolSection := do
  let childrenRaw ← reading outage .children
    (.ok ((linkedStudents site.db.val userId).map (childRow site)))
  let enrollmentsRaw ← reading outage .enrollments (.ok (enrollmentsForParent site.db.val userId))
  let eventsRaw ← reading outage .events (eventsForParent site.db userId)
  let payments ← getPaymentsForEnrollments outage site enrollmentsRaw
  return { emptySection m summary with
    children := childrenRaw.map childEntry
    enrollments := enrollmentsRaw.map (familyEnrollment eventsRaw payments) }

def fetchOneSchool (outage : Outage) (site : Site) (m : Membership) (email : String) :
    Except Failure SchoolSection := do
  let summary ← reading outage .summary (.ok (getLocaleSummary site))
  match ← getUserByEmail outage site email with
  | none => return emptySection m summary
  | some user => fetchFamily outage site m summary user.id

/-- The section of a school that could not be read. -/
def errorSection (m : Membership) (message : String) : SchoolSection where
  tenantId := m.tenantId
  role := m.role
  status := .error
  errorMessage := some message
  schoolName := none
  currency := none
  timezone := none
  children := []
  enrollments := []

/-- `fetch_school`: no exception leaves it. -/
def fetchSchool (outage : Outage) (site : Site) (email : String) (m : Membership) : SchoolSection :=
  match fetchOneSchool outage site m email with
  | .ok s => s
  | .error f => errorSection m f.message

/-! ## The overview -/

structure Overview where
  schools : List SchoolSection
  degraded : List String
  deriving DecidableEq, Repr

/-- What `gather` came to, beside the memberships: an exception becomes a section as well. -/
def collect (memberships : List Membership) (results : List (Except String SchoolSection)) :
    Overview :=
  let schools := memberships.zipWith (fun m r =>
    match r with
    | .ok s => s
    | .error message => errorSection m message) results
  { schools, degraded := (schools.filter fun s => s.status = .error).map SchoolSection.tenantId }

def maxMemberships : Nat := 10

def maxConcurrency : Nat := 4

/-- The semaphore of an overview of `n` schools. -/
def permits (n : Nat) : Nat := min maxConcurrency (if n = 0 then 1 else n)

/-- What each school comes to; `outage` is by the place of the membership. -/
def fetches (sites : String → Site) (outage : Nat → Outage) (email : String)
    (memberships : List Membership) : List (Except String SchoolSection) :=
  memberships.zipIdx.map fun p => .ok (fetchSchool (outage p.2) (sites p.1.tenantId) email p.1)

/-- `get_overview` under a schedule; `none` while there are schools that have not come back. -/
def getOverview (sites : String → Site) (outage : Nat → Outage) (email : String)
    (memberships : List Membership) (turns : List Fanout.Turn) : Except PyError (Option Overview) :=
  if maxMemberships < memberships.length then
    .error (.valueError
      s!"Too many school memberships ({memberships.length}) for the family overview.")
  else
    let tasks := fetches sites outage email memberships
    .ok
      ((Fanout.results (run (Fanout.step (permits memberships.length) tasks) (Fanout.initial tasks)
      turns)).map (collect memberships))

end Fetch

end Sams.Family
