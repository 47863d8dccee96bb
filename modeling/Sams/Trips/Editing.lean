import Sams.Trips.Workflow

/-!
# Creating and editing events

The routes that create, clone and change events, beside the workflow. A request reads the event
first and writes later. Who may not set the subsidy writes back the one that was read.
-/

namespace Sams.Trips

open School Programs Interleaving

/-! ## Payloads -/

/-- A class that an event is to be for. -/
structure ClassMappingRequest where
  classId : Nat
  ticketPrice : Money := 0
  deriving DecidableEq, Repr

structure EventCreateRequest where
  title : String
  description : Option String := some ""
  address : Option String := some ""
  schoolSubsidy : Money := 0
  date : Timestamp
  classMappings : List ClassMappingRequest := []
  deriving DecidableEq, Repr

structure EventPatchRequest where
  title : Option String := none
  description : Option String := none
  address : Option String := none
  date : Option Timestamp := none
  deriving DecidableEq, Repr

structure AudienceSelect where
  classIds : List Nat := []
  classMappings : List ClassMappingRequest := []
  deriving DecidableEq, Repr

/-- The classes of an audience: the ids count only where there are no mappings. -/
def AudienceSelect.mappings (a : AudienceSelect) : List ClassMappingRequest :=
  if a.classMappings = [] then a.classIds.map fun c => { classId := c } else a.classMappings

/-- The columns of an event that its editors write. -/
structure EventFields where
  title : String
  description : String
  address : Option String
  schoolSubsidy : Money
  date : Timestamp
  deriving DecidableEq, Repr

/-- The fields of the payload, with the subsidy as it was resolved. -/
def EventCreateRequest.fields (payload : EventCreateRequest) (subsidy : Money) : EventFields where
  title := payload.title
  description := payload.description.getD ""
  address := some (payload.address.getD "")
  schoolSubsidy := subsidy
  date := payload.date

/-! ## Statements -/

namespace TenantRepository

/-- `INSERT INTO event … RETURNING id`. -/
def insertEvent (fields : EventFields) (createdBy : Nat) (now : Timestamp) : Prog Nat := do
  let id ← read fun t => t.seq.event
  stmt fun t =>
    { t with
      events := t.events ++ [{
        id
        title := fields.title
        description := fields.description
        address := fields.address
        schoolSubsidy := fields.schoolSubsidy
        date := fields.date
        createdBy
        createdAt := now }]
      seq := { t.seq with event := t.seq.event + 1 } }
  return id

/-- `INSERT INTO event_class_map`. -/
def insertEventClass (eventId : Nat) (mapping : ClassMappingRequest) : Prog Unit :=
  stmt fun t =>
    { t with
      eventClasses := t.eventClasses ++ [{
        id := t.seq.eventClass
        eventId
        classId := mapping.classId
        ticketPrice := mapping.ticketPrice }]
      seq := { t.seq with eventClass := t.seq.eventClass + 1 } }

/-- The transaction of `create_event`. -/
def insertWithClasses (fields : EventFields) (createdBy : Nat)
    (classMappings : List ClassMappingRequest) (now : Timestamp) : Prog Nat :=
  transaction do
    let eventId ← insertEvent fields createdBy now
    classMappings.forM (insertEventClass eventId)
    return eventId

def createEvent (fields : EventFields) (createdBy : ParsedId)
    (classMappings : List ClassMappingRequest) (now : Timestamp) : Task (Option Event) := do
  let createdBy ← ofExcept createdBy.column
  let eventId ← Proc.once (insertWithClasses fields createdBy classMappings now)
  getEventById eventId

/-- `UPDATE event SET title = $1, … WHERE id = $6`. -/
def setFields (eventId : Nat) (fields : EventFields) : Prog Unit :=
  stmt fun t => { t with
    events := Rows.updateWhere (fun e => e.id = eventId) (fun e =>
      { e with
        title := fields.title
        description := fields.description
        address := fields.address
        schoolSubsidy := fields.schoolSubsidy
        date := fields.date }) t.events }

/-- `UPDATE event … RETURNING …`: the row as it is then, of which nine columns are returned. -/
def updateEvent (eventId : Nat) (fields : EventFields) : Prog (Option EventRow) := do
  setFields eventId fields
  read fun t => t.event? eventId

/-- Write a class of the event: the ticket price of the class map that was found, or a new one. -/
def upsertEventClass (eventId : Nat) (existing : List EventClassRow)
    (mapping : ClassMappingRequest) :
    Prog Unit :=
  match (existing.filter fun m => m.classId = mapping.classId).getLast? with
  | some row => stmt fun t => { t with
      eventClasses := Rows.updateWhere (fun m => m.id = row.id)
        (fun m => { m with ticketPrice := mapping.ticketPrice }) t.eventClasses }
  | none => insertEventClass eventId mapping

/-- The transaction of `update_event_full`. -/
def setFieldsAndClasses (eventId : Nat) (fields : EventFields)
    (classMappings : List ClassMappingRequest) : Prog Unit :=
  transaction do
    setFields eventId fields
    let existing ← read fun t => t.eventClasses.filter fun m => m.eventId = eventId
    classMappings.forM (upsertEventClass eventId existing)

/-- `update_event_full`. The mark says whether the subsidy is set or written back. -/
def updateEventFull (mark : Mark) (eventId : Nat) (fields : EventFields)
    (classMappings : List ClassMappingRequest) : Task (Option Event) := do
  Proc.marked mark (setFieldsAndClasses eventId fields classMappings)
  getEventById eventId

/-- `UPDATE event SET school_subsidy = $1 WHERE id = $2`. -/
def updateSubsidy (eventId : Nat) (subsidy : Money) : Prog Unit :=
  stmt fun t => { t with
    events := Rows.updateWhere (fun e => e.id = eventId)
      (fun e => { e with schoolSubsidy := subsidy }) t.events }

/-- The students of `get_all_students` that are placed in the class. -/
def studentsOf (t : Tables) (classId : Nat) : List Nat :=
  (t.students.filter fun s => s.classId = some classId).map StudentRow.id

def getResourcesForEvent (t : Tables) (eventId : Nat) : List ResourceRow :=
  t.resources.filter fun r => r.eventId = eventId

/-- `DELETE FROM resources WHERE event_id = $1`, with the cascade to the costs. -/
def deleteResourcesForEvent (eventId : Nat) : Prog Unit :=
  stmt fun t => { t with
    resources := t.resources.filter fun r => r.eventId ≠ eventId
    resourceCosts := t.resourceCosts.filter fun c =>
      ¬t.resources.any fun r => r.eventId = eventId ∧ r.id = c.resourceId }

/-- `INSERT INTO resources`. -/
def createResource (eventId addedByUserId : Nat) : Prog Unit :=
  stmt fun t =>
    { t with
      resources := t.resources ++ [{
        id := t.seq.resource, eventId, addedByUserId, updatedByUserId := none }]
      seq := { t.seq with resource := t.seq.resource + 1 } }

end TenantRepository

/-! ## Services -/

namespace TenantService

open TenantRepository

/-- The students to notify, one class more. -/
def addStudents (userIds : List Nat) (mapping : ClassMappingRequest) : Task (List Nat) := do
  let students ← Proc.look fun d => studentsOf d.val mapping.classId
  return userIds ∪ students

/-- Notify the students of a new event. -/
def notifyStudents (userIds : List Nat) : Option Event → Task Unit
  | some event => userIds.forM fun u => Proc.once (createNotification event.row.id u none)
  | none => Proc.failIf (userIds ≠ []) (.typeError "'NoneType' object is not subscriptable")

def createEvent (fields : EventFields) (createdBy : ParsedId)
    (classMappings : List ClassMappingRequest) (userRole : List String) (now : Timestamp) :
    Task (Option Event) := do
  Proc.failIf (¬Authz.require userRole ["school_admin", "teacher"])
    (.permissionError "Only staff can create events")
  let event ← TenantRepository.createEvent fields createdBy classMappings now
  let userIdsToNotify ← classMappings.foldlM addStudents []
  notifyStudents userIdsToNotify event
  return event

/-- The event is no draft, or it is gone. -/
def resourcesFixed : PyError :=
  .valueError "Resources can only be modified on draft or resource planning events"

/-- Replace the resources of an event by as many new ones, each statement on its own. -/
def addResourcesToEvent (eventId : Nat) (resourcesList : List ResourceRow)
    (addedByUserId : ParsedId) : Task Unit := do
  match ← getEventById eventId with
  | none => Proc.fail resourcesFixed
  | some event =>
    Proc.failIf (event.row.status ∉ [.draft, .resourcePlanning]) resourcesFixed
    Proc.once (deleteResourcesForEvent eventId)
    resourcesList.forM fun _ => do
      let addedByUserId ← ofExcept addedByUserId.column
      Proc.once (createResource eventId addedByUserId)

/-- Copy the resources of one event to another, if there are any. -/
def copyResources (eventId newEventId : Nat) (createdBy : ParsedId) : Task Unit := do
  let originalResources ← Proc.look fun d => getResourcesForEvent d.val eventId
  if originalResources = [] then
    return ()
  else
    addResourcesToEvent newEventId originalResources createdBy

/-- `timedelta(days=30)`. -/
def thirtyDays : Timestamp := 30 * 24 * 60 * 60 * 1000000

/-- What a clone of the event is created with. -/
def cloneFields (original : Event) (now : Timestamp) : EventFields where
  title := "Template - " ++ original.row.title
  description := original.row.description
  address := original.row.address
  schoolSubsidy := original.row.schoolSubsidy
  date := now + thirtyDays

def cloneEvent (eventId : Nat) (createdBy : ParsedId) (userRole : List String) (now : Timestamp) :
    Task (Option Event) := do
  Proc.failIf (¬Authz.require userRole ["school_admin", "teacher"])
    (.permissionError "Only staff can clone events")
  match ← getEventById eventId with
  | none => Proc.fail (.valueError "Event not found")
  | some original =>
    let classMappings := original.classMappings.map fun m =>
      { classId := m.classId, ticketPrice := m.ticketPrice }
    match ← createEvent (cloneFields original now) createdBy classMappings userRole now with
    | none => Proc.fail (.typeError "'NoneType' object is not subscriptable")
    | some newEvent =>
      copyResources eventId newEvent.row.id createdBy
      getEventById newEvent.row.id

/-- The class mappings that the actor may write: a teacher who is neither an administrator nor a
manager writes those of their own classes, on an event that is for one of them. -/
def ownMappings (eventId : Nat) (classMappings : List ClassMappingRequest) (userRole : List String)
    (userId : ParsedId) : Task (List ClassMappingRequest) := do
  if "school_admin" ∈ userRole ∨ "event_teacher" ∈ userRole ∨ "manager" ∈ userRole then
    return classMappings
  else if "teacher" ∈ userRole then
    let userId ← ofExcept userId.column
    let teacherClasses ← Proc.look fun d => getClassesByHeadTeacher d.val userId
    Proc.failIf (teacherClasses = [])
      (.permissionError "Teacher is not a head teacher of any class")
    match ← getEventById eventId with
    | none => Proc.fail (.valueError "Event not found")
    | some existingEvent =>
      Proc.failIf (¬existingEvent.classMappings.any fun m => m.classId ∈ teacherClasses)
        (.permissionError "Access denied. Event is not mapped to your class.")
      return classMappings.filter fun m => m.classId ∈ teacherClasses
  else
    Proc.fail (.permissionError "Only staff can update events")

/-- `update_event_full`. -/
def updateEventFull (mark : Mark) (eventId : Nat) (fields : EventFields)
    (classMappings : List ClassMappingRequest) (userRole : List String) (userId : ParsedId) :
    Task Event := do
  let classMappings ← ownMappings eventId classMappings userRole userId
  match ← TenantRepository.updateEventFull mark eventId fields classMappings with
  | none => Proc.fail (.valueError "Event not found")
  | some event => return event

end TenantService

namespace EventService

/-- A super admin sets the subsidy of any event, anyone else that of an event they may read. -/
def requireVisible (actor : Actor) (event : EventRow) : Task Unit :=
  if actor.isOneOf ["super_admin"] then return ()
  else do
    let readable ← ofExcept (TenantService.checkEventPermission actor event .read)
    Proc.failIf (¬readable) (.permissionError
      ("Access denied. A manager cannot set subsidy on a trip they cannot yet see " ++
       "-- wait for the teacher to submit it."))

def updateSubsidy (eventId : Nat) (actor : Actor) (subsidy : Money) : Task Money := do
  match ← TenantRepository.getEventById eventId with
  | none => Proc.fail (.valueError "Event not found")
  | some event =>
    requireVisible actor event.row
    Proc.marked (.setSubsidy eventId subsidy) (TenantRepository.updateSubsidy eventId subsidy)
    return subsidy

end EventService

/-! ## Routes -/

namespace EventsRouter

open TenantRepository

def createEvent (actor : Actor) (payload : EventCreateRequest) (now : Timestamp) :
    Task EventResponse := do
  Proc.failIf (¬(actor.user.hasAnyRole ["school_admin", "teacher"] ∨
      actor.user.hasRole "event:create"))
    (.httpException 403 "Only staff or users with event:create permission can create events")
  let canSeeSubsidy := actor.user.hasAnyRole ["school_admin", "manager"]
  Proc.wrap (httpError 500 403) do
    let subsidy := EventService.resolveSubsidy payload.schoolSubsidy actor 0
    match ← TenantService.createEvent (payload.fields subsidy) actor.id payload.classMappings
        actor.user.roles now with
    | none => Proc.fail (.typeError "'NoneType' object does not support item assignment")
    | some event =>
      return .ofEvent event
        (if canSeeSubsidy then some event.row.schoolSubsidy else none, event.row.totalCost)

def cloneEventEndpoint (actor : Actor) (eventId : Nat) (now : Timestamp) : Task EventResponse := do
  Proc.failIf (¬actor.user.hasAnyRole ["school_admin", "teacher"])
    (.httpException 403 "Only staff can clone events")
  Proc.wrap (httpError 404 403) do
    respond (← TenantService.cloneEvent eventId actor.id actor.user.roles now)

/-- `PUT /{event_id}`. -/
def updateEvent (actor : Actor) (eventId : Nat) (payload : EventCreateRequest) :
    Task EventResponse := do
  Proc.failIf (¬actor.user.hasAnyRole ["school_admin", "teacher", "event_teacher", "manager"])
    (.httpException 403 "Only staff can update events")
  Proc.wrap (httpError 404 403) do
    match ← getEventById eventId with
    | none => Proc.fail (.valueError "Event not found")
    | some existingEvent =>
      EventService.requireEditable actor existingEvent.row
      let existing := existingEvent.row.schoolSubsidy
      let subsidy := EventService.resolveSubsidy payload.schoolSubsidy actor existing
      let mark := if actor.isOneOf EventService.privileged then .setSubsidy eventId subsidy
        else .keepSubsidy eventId existing
      let event ← TenantService.updateEventFull mark eventId (payload.fields subsidy)
        payload.classMappings actor.user.roles actor.id
      return .plain event

def notEditable : PyError := .httpException 403 EventService.notEditable

/-- The event's own fields, with what the payload has in place of them. -/
def patchedFields (row : EventRow) (payload : EventPatchRequest) : EventFields where
  title := payload.title.getD row.title
  description := payload.description.getD row.description
  address := payload.address.or row.address
  schoolSubsidy := row.schoolSubsidy
  date := payload.date.getD row.date

/-- The answer made of the nine columns that `update_event` returns. -/
def returned (row : EventRow) : EventResponse where
  id := row.id
  title := row.title
  description := row.description
  address := row.address
  eventMapId := row.eventMapId
  schoolSubsidy := some row.schoolSubsidy
  date := row.date
  createdBy := row.createdBy
  createdAt := row.createdAt

def patchEvent (actor : Actor) (eventId : Nat) (payload : EventPatchRequest) :
    Task EventResponse := do
  requireTenant actor
  Proc.wrap (httpError 500 500) do
    match ← getEventById eventId with
    | none => Proc.fail (.httpException 404 "Event not found")
    | some event =>
      let editable ← ofExcept (EventService.isEditable actor event.row)
      Proc.failIf (¬editable) notEditable
      match ← Proc.marked (.keepSubsidy eventId event.row.schoolSubsidy)
          (TenantRepository.updateEvent eventId (patchedFields event.row payload)) with
      | none => Proc.fail (.typeError "argument after ** must be a mapping, not NoneType")
      | some row => return returned row

/-- The answer is the predicted attendance. -/
def selectAudience (actor : Actor) (eventId : Nat) (payload : AudienceSelect) : Task Nat := do
  requireTenant actor
  Proc.wrap (httpError 500 500) do
    match ← getEventById eventId with
    | none => Proc.fail (.httpException 404 "Event not found")
    | some event =>
      let editable ← ofExcept (EventService.isEditable actor event.row)
      Proc.failIf (¬editable) notEditable
      let _ ← TenantRepository.updateEventFull
          (.keepSubsidy eventId event.row.schoolSubsidy) eventId
        (patchedFields event.row {}) payload.mappings
      TenantService.getPredictedAttendance (payload.mappings.map ClassMappingRequest.classId)

/-- `PUT /{event_id}/subsidy`, with the amount as it was parsed. -/
def updateEventSubsidy (actor : Actor) (eventId : Nat) (subsidy : Money) : Task Money := do
  requireTenant actor
  Proc.failIf (¬actor.user.hasAnyRole ["school_admin", "manager", "super_admin"])
    (.httpException 403 "Access denied. Only manager or admin can modify school subsidy.")
  Proc.wrap (httpError 404 403) (EventService.updateSubsidy eventId actor subsidy)

end EventsRouter

end Sams.Trips
