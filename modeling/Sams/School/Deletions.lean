import Sams.School.System

/-!
# Deleting events and users

`DELETE FROM event` and `DELETE FROM users`, with the cascades of the schema, and the routes over
them. An event takes its class maps with it, these the enrollments, and these the payments. A user
takes the student they are, with the student's enrollments, and the events they created.

The events, class maps and enrollments are not checked for payments by either route.
-/

namespace Sams.School

open Programs Rows

namespace Tables

variable (t : Tables)

def user? (id : Nat) : Option UserRow := t.users.find? fun u => u.id = id

def event? (id : Nat) : Option EventRow := t.events.find? fun e => e.id = id

/-! ## Cascades -/

/-- `DELETE FROM event`, with the cascades to its class maps, resources, costs and notifications. -/
def deleteEvents (p : EventRow → Bool) : Tables :=
  let gone := fun id => t.events.any fun e => p e ∧ e.id = id
  { t.deleteEventClasses fun m => gone m.eventId with
    events := t.events.filter fun e => ¬p e
    resources := t.resources.filter fun r => ¬gone r.eventId
    resourceCosts := t.resourceCosts.filter fun c =>
      ¬(gone c.eventId ∨ t.resources.any fun r => gone r.eventId ∧ r.id = c.resourceId)
    notifications := t.notifications.filter fun n => ¬gone n.eventId }

/-- `DELETE FROM students`, with the cascades to the enrollments, the placement history, the
rollover lines and the links to parents. -/
def deleteStudents (p : StudentRow → Bool) : Tables :=
  let gone := fun id => t.students.any fun s => p s ∧ s.id = id
  { t.deleteEnrollments fun n => gone n.studentId with
    students := t.students.filter fun s => ¬p s
    history := t.history.filter fun h => ¬gone h.studentId
    lines := t.lines.filter fun l => ¬gone l.studentId
    studentParents := t.studentParents.filter fun m => ¬gone m.studentId }

/-- `DELETE FROM users WHERE id = $1`, with the cascades. A head teacher is restricted by the
foreign key of `class`. -/
def deleteUser (uid : Nat) : Tables :=
  let t := (t.deleteStudents fun s => s.id = uid).deleteEvents fun e => e.createdBy = uid
  { t with
    users := t.users.filter fun u => u.id ≠ uid
    teachers := t.teachers.filter fun x => x.id ≠ uid
    history :=
      t.history.map fun h => { h with changedBy := setNull (fun id => id = uid) h.changedBy }
    rollovers := t.rollovers.map fun r =>
      { r with createdBy := setNull (fun id => id = uid) r.createdBy }
    parents := t.parents.filter fun p => p.id ≠ uid
    studentParents := t.studentParents.filter fun m => m.parentId ≠ uid
    enrollments := t.enrollments.map fun n =>
      { n with
        teacherId := setNull (fun id => id = uid) n.teacherId
        parentId := setNull (fun id => id = uid) n.parentId }
    notifications := t.notifications.filter fun n => n.recipientUserId ≠ uid
    auditLog := t.auditLog.map fun a =>
      { a with actorUserId := setNull (fun id => id = uid) a.actorUserId } }

def setEvents (f : EventRow → EventRow) : Tables := { t with events := t.events.map f }

/-- The user added, updated or priced a resource. -/
def authored (uid : Nat) : Bool :=
  (t.resources.any fun r => r.addedByUserId = uid ∨ r.updatedByUserId = some uid) ∨
    t.resourceCosts.any fun c => c.setByUserId = uid

end Tables

/-! ## Events -/

namespace EventService

def deleteEvent (eventId : Nat) : Prog Bool := do
  match ← read fun t => t.event? eventId with
  | none => return false
  | some _ =>
    stmt fun t => t.deleteEvents fun e => e.id = eventId
    return true

end EventService

namespace EventsRouter

def isStaff (currentUser : Authz.CurrentUser) : Bool :=
  currentUser.hasAnyRole ["school_admin", "super_admin", "event_teacher", "manager", "teacher"] ∨
    currentUser.hasRole "event:delete"

def deleteEvent (currentUser : Authz.CurrentUser) (eventId : Nat) : Prog Unit := do
  raiseIf (¬isStaff currentUser)
    (.httpException 403 "Only staff or administrators can delete events")
  let deleted ← EventService.deleteEvent eventId
  raiseIf (¬deleted) (.httpException 404 "Event not found")

end EventsRouter

/-! ## Users -/

namespace UserRepository

/-- The deletion of the row. Who wrote a resource is kept by a plain `REFERENCES`, which is checked
with the first level of the cascade: the resources of the user's own events still stand then. -/
def deleteUserRow (uid : Nat) : Prog Unit := do
  let authored ← read fun t => t.authored uid
  raiseIf authored .databaseError
  stmt fun t => t.deleteUser uid

def deleteUser (userId : Nat) : Prog (Option UserRow) :=
  transaction do
    match ← read fun t => t.user? userId with
    | none => return none
    | some row =>
      stmt fun t => t.setEvents fun e =>
        { e with managerReviewerId := Tables.setNull (fun id => id = userId) e.managerReviewerId }
      stmt fun t => t.setEvents fun e =>
        { e with financeReviewerId := Tables.setNull (fun id => id = userId) e.financeReviewerId }
      rescue (deleteUserRow userId) fun _ => throw (.valueError
        ("This user has added or priced event resources and cannot be deleted " ++
         "until those records are reassigned to another staff member."))
      return some row

end UserRepository

namespace TenantService

/-- Delete a user of the tenant. `requestingUserId` is the caller's id as a text. -/
def deleteTenantUser (targetUserId : Nat) (requestingUserId : String) (userRole : List String) :
    Prog UserRow := do
  let isSuper := "super_admin" ∈ userRole
  let isSchoolAdmin := "school_admin" ∈ userRole ∨ "admin" ∈ userRole
  raiseIf (¬(isSuper ∨ isSchoolAdmin))
    (.permissionError "Only school_admin or super_admin can delete users")
  match ← read fun t => t.user? targetUserId with
  | none => throw (.valueError "User not found")
  | some target =>
    raiseIf (toString target.id = requestingUserId)
      (.permissionError "You cannot delete your own account")
    raiseIf (¬isSuper ∧ "super_admin" ∈ target.role :: target.roles)
      (.permissionError "school_admin cannot delete a super_admin account")
    match ← UserRepository.deleteUser targetUserId with
    | none => throw (.valueError "User not found")
    | some deleted => return deleted

end TenantService

namespace AuthRouter

def deleteUser (currentUser : Authz.CurrentUser) (userId : Nat) : Prog UserRow := do
  raiseIf (¬(currentUser.hasAnyRole ["school_admin", "super_admin", "admin"] ∨
      currentUser.hasRole "user:delete"))
    (.httpException 403 "Only school administrators can delete users")
  TenantService.deleteTenantUser userId currentUser.id currentUser.roles

end AuthRouter

/-! ## The deleting operations -/

/-- A call of an operation that deletes. -/
inductive Deletion where
  | deleteEvent (currentUser : Authz.CurrentUser) (eventId : Nat)
  | deleteUser (currentUser : Authz.CurrentUser) (userId : Nat)
  | deleteClass (userRole : List String) (classId : Nat) (changedBy : Option Nat)
  | deleteLevel (userRole : List String) (levelId : Nat) (changedBy : Option Nat)
  | saveAcademicStructure (userRole : List String) (payload : StructureIn) (changedBy : Option Nat)
  deriving DecidableEq, Repr

variable [Unicode]

/-- The program of a call, its result dropped. -/
def Deletion.program : Deletion → Prog Unit
  | .deleteEvent u e => EventsRouter.deleteEvent u e
  | .deleteUser u i => discard (AuthRouter.deleteUser u i)
  | .deleteClass u i c => discard (TenantService.deleteClass u i c)
  | .deleteLevel u l c => discard (TenantService.deleteLevel u l c)
  | .saveAcademicStructure u p c => TenantService.saveAcademicStructure u p c

/-- One step: the state a call leaves. -/
def Deletion.step (d : Db) (op : Deletion) : Db := after op.program d

end Sams.School
