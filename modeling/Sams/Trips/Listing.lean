import Mathlib.Data.List.Sort
import Sams.Trips.Workflow

/-!
# Reading events

One event by its id, and the events that a user may read: everything readable for who manages the
school, and for teachers, students and parents what concerns their classes and their children. Both
routes hide the amounts from who may not see them.
-/

namespace Sams.Trips

open School Programs Interleaving

namespace TenantRepository

/-- The events of the rows, each read with its classes. -/
def withClasses (rows : List EventRow) : Task (List Event) :=
  rows.mapM fun row => do
    let classMappings ← Proc.look fun d => classMappings d.val row.id
    return { row, classMappings }

/-- `ORDER BY date ASC`. -/
def byDate (rows : List EventRow) : List EventRow :=
  rows.insertionSort fun e e' => e.date ≤ e'.date

def getAllEvents : Task (List Event) := do
  withClasses (← Proc.look fun d => byDate d.val.events)

/-- The published events of a class. The reason of a rejection is not among the columns. -/
def publishedFor (t : Tables) (classId : Nat) : List EventRow :=
  byDate ((t.events.filter fun e => e.status = .published ∧
      t.eventClasses.any fun m => m.eventId = e.id ∧ m.classId = classId).map fun e =>
    { e with rejectionReason := none })

def getEventsForStudent (studentId : Nat) : Task (List Event) := do
  match ← Proc.look fun d => (d.val.student? studentId).bind StudentRow.classId with
  | none => return []
  | some classId => withClasses (← Proc.look fun d => publishedFor d.val classId)

/-- The students that are linked to a parent. -/
def getLinkedStudentsForParent (t : Tables) (parentId : Nat) : List Nat :=
  (t.students.filter fun s => t.studentParents.any fun m =>
    m.studentId = s.id ∧ m.parentId = parentId).map StudentRow.id

end TenantRepository

namespace TenantService

open TenantRepository

/-- The user as `get_events_for_user` passes them on: by their id and roles. -/
def viewer (actor : Actor) : Actor :=
  { actor with user := { actor.user with role := actor.user.roles.headD "student" } }

/-- Add an event if the user may read it or `also` holds of it. -/
def addReadable (actor : Actor) (also : Event → Bool) (events : List Event) (ev : Event) :
    Task (List Event) := do
  let readable ← ofExcept (checkEventPermission actor ev.row .read)
  return if readable || also ev then events ++ [ev] else events

/-- The same for an event that is not there yet. -/
def addVisible (actor : Actor) (also : Event → Bool) (added : List Event) (ev : Event) :
    Task (List Event) :=
  if added.any fun e => e.row.id = ev.row.id then return added
  else addReadable actor also added ev

/-- Add an event of another child: to the classes of the event when it is there already. -/
def mergeEvent (events : List Event) (ev : Event) : List Event :=
  if events.any fun e => e.row.id = ev.row.id then
    events.map fun e =>
      if e.row.id = ev.row.id then
        { e with classMappings := e.classMappings ++ ev.classMappings.filter fun m =>
            ¬e.classMappings.any fun m' => m'.id = m.id }
      else e
  else events ++ [ev]

/-- Merge an event that the user may read. -/
def mergeReadable (actor : Actor) (events : List Event) (ev : Event) : Task (List Event) := do
  let readable ← ofExcept (checkEventPermission actor ev.row .read)
  return if readable then mergeEvent events ev else events

/-- The events of a child, merged with those of the children before. -/
def mergeChild (actor : Actor) (events : List Event) (child : Nat) : Task (List Event) := do
  let childEvents ← getEventsForStudent child
  childEvents.foldlM (mergeReadable actor) events

/-- Add an event that is not there yet. -/
def addNew (added : List Event) (ev : Event) : List Event :=
  if added.any fun e => e.row.id = ev.row.id then added else added ++ [ev]

/-- The events of the classes that a teacher heads, and those that they may read anyway. -/
def teacherEvents (actor : Actor) (added : List Event) : Task (List Event) := do
  let userId ← ofExcept actor.id.column
  let teacherClassIds ← Proc.look fun d => getClassesByHeadTeacher d.val userId
  let events ← getAllEvents
  events.foldlM (addVisible (viewer actor) fun ev =>
    ev.classMappings.any fun m => m.classId ∈ teacherClassIds) added

def studentEvents (actor : Actor) (added : List Event) : Task (List Event) := do
  let userId ← ofExcept actor.id.column
  let events ← getEventsForStudent userId
  events.foldlM (addVisible (viewer actor) fun _ => false) added

/-- The events of the children. -/
def parentEvents (actor : Actor) (added : List Event) : Task (List Event) := do
  let userId ← ofExcept actor.id.column
  let children ← Proc.look fun d => getLinkedStudentsForParent d.val userId
  let events ← children.foldlM (mergeChild (viewer actor)) []
  return events.foldl addNew added

/-- Who is shown every event that they may read. -/
def broadRoles : List String := ["super_admin", "school_admin", "manager", "event_teacher"]

/-- One source of events, for who has the role. -/
def forRole (actor : Actor) (role : String) (source : Actor → List Event → Task (List Event))
    (added : List Event) : Task (List Event) :=
  if role ∈ actor.user.roles then source actor added else return added

/-- Without any of the roles there is nothing in the list. -/
def getEventsForUser (actor : Actor) : Task (List Event) := do
  if actor.user.roles.any (· ∈ broadRoles) then
    let events ← getAllEvents
    events.foldlM (addReadable (viewer actor) fun _ => false) []
  else
    let added ← forRole actor "teacher" teacherEvents []
    let added ← forRole actor "student" studentEvents added
    let added ← forRole actor "parent" parentEvents added
    return added.insertionSort fun e e' => e.row.date ≤ e'.row.date

end TenantService

/-! ## Routes -/

namespace EventsRouter

open TenantRepository

/-- The answer to an event that is shown to the actor. -/
def shown (actor : Actor) (event : Event) : EventResponse :=
  .ofEvent event (EventService.maskFinancials event actor)

def listEvents (actor : Actor) : Task (List EventResponse) := do
  Proc.failIf ((Text.nonEmpty actor.user.tenantId).isNone ∧ ¬actor.user.hasRole "super_admin")
    (.httpException 400 "Tenant context required")
  Proc.wrap (httpError 500 500) do
    let events ← TenantService.getEventsForUser actor
    return events.map (shown actor)

def getEvent (actor : Actor) (eventId : Nat) : Task EventResponse := do
  Proc.failIf ((Text.nonEmpty actor.user.tenantId).isNone ∧ actor.user.role ≠ "super_admin")
    (.httpException 400 "Tenant context required")
  Proc.wrap (httpError 500 500) do
    match ← getEventById eventId with
    | none => Proc.fail (.httpException 404 "Event not found")
    | some event =>
      let readable ← ofExcept (TenantService.checkEventPermission actor event.row .read)
      Proc.failIf (¬readable) (.httpException 403 "Access denied")
      return shown actor event

end EventsRouter

end Sams.Trips
