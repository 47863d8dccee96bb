import Sams.Lib.Binary64
import Sams.Setup.Profile
import Sams.Trips.Events

/-!
# The resource lines of an event and what they cost

A line asks for a quantity of a resource type, and is priced by a row of `resource_cost` that keeps
the unit price beside the total. The tables are those of a tenant that the operations on lines and
costs read and write. Every statement is an action of its own: the repository runs each on the pool,
also within the transaction that `add_resources_to_event` opens.
-/

namespace Sams.Costs

open School (EventRow EventStatus Money Numeric Int4)
open Setup (ProfileRow ProfileUpdate)
open Trips (Actor ParsedId)
open Programs Rows Interleaving

/-! ## Rows -/

/-- A row of `resource_types`. -/
structure TypeRow where
  id : Nat
  name : String
  category : String
  deriving DecidableEq, Repr

/-- A row of `resources`. -/
structure LineRow where
  id : Nat
  eventId : Nat
  resourceTypeId : Nat
  description : Option String
  quantity : Nat
  addedByUserId : Nat
  updatedByUserId : Option Nat := none
  deriving DecidableEq, Repr

/-- A row of `resource_cost`. -/
structure CostRow where
  id : Nat
  eventId : Nat
  resourceId : Nat
  unitPrice : Money
  totalCost : Money
  currency : String
  setByUserId : Nat
  deriving DecidableEq, Repr

/-- The tables. Of the other money on record it is kept whether there is any. -/
structure Tables where
  events : List EventRow
  users : List Nat
  types : List TypeRow
  lines : List LineRow
  costs : List CostRow
  profile : Option ProfileRow
  otherMoney : Bool
  lineSeq : Nat
  costSeq : Nat
  deriving DecidableEq, Repr

/-- The constraints of the tables, and that the sequences are ahead of the ids drawn from them. -/
@[mk_iff]
structure Tables.Ok (t : Tables) : Prop where
  events_key : Keyed EventRow.id t.events
  types_key : Keyed TypeRow.id t.types
  lines_key : Keyed LineRow.id t.lines
  costs_key : Keyed CostRow.id t.costs
  cost_resource_unique : Keyed CostRow.resourceId t.costs
  line_event : Refers (fun l => some l.eventId) EventRow.id t.lines t.events
  line_type : Refers (fun l => some l.resourceTypeId) TypeRow.id t.lines t.types
  line_added_by : ∀ l ∈ t.lines, l.addedByUserId ∈ t.users
  line_updated_by : ∀ l ∈ t.lines, ∀ u ∈ l.updatedByUserId, u ∈ t.users
  line_quantity : ∀ l ∈ t.lines, 0 < l.quantity ∧ Int4 l.quantity
  cost_event : Refers (fun c => some c.eventId) EventRow.id t.costs t.events
  cost_resource : Refers (fun c => some c.resourceId) LineRow.id t.costs t.lines
  cost_set_by : ∀ c ∈ t.costs, c.setByUserId ∈ t.users
  cost_unit_price : ∀ c ∈ t.costs, 0 ≤ c.unitPrice ∧ Numeric c.unitPrice
  cost_total_cost : ∀ c ∈ t.costs, Numeric c.totalCost
  line_seq : ∀ l ∈ t.lines, l.id < t.lineSeq
  cost_seq : ∀ c ∈ t.costs, c.id < t.costSeq

instance : DecidablePred Tables.Ok := fun t => decidable_of_iff _ (Tables.ok_iff t).symm

abbrev Db := Checked Tables.Ok

abbrev Prog := EStateM PyError Db

abbrev stmt (f : Tables → Tables) : Prog Unit := exec .databaseError f

abbrev read {α : Type} (f : Tables → α) : Prog α := query fun d => f d.val

/-- The writes that take for granted what their request has read. -/
inductive Mark where
  /-- The cost of a line was set at a price, for the quantity that was read. -/
  | price (resourceId : Nat) (unitPrice : ℚ) (quantity : Nat) (currency : String)
  /-- The cost of a line was written again for a new quantity, at the price and currency read. -/
  | reprice (resourceId : Nat) (unitPrice : Money) (quantity : Nat) (currency : String)
  /-- A line was updated to this quantity. -/
  | quantity (resourceId quantity : Nat)
  /-- The profile of the school was updated. -/
  | profile (fields : ProfileUpdate)
  deriving DecidableEq

/-- The program of a request. -/
abbrev Task := Proc Mark PyError Db

/-- A value that may be an exception. -/
def ofExcept {α : Type} : Except PyError α → Task α
  | .ok a => .ret a
  | .error e => .fail e

/-- A number as a `NUMERIC(14, 4)` column stores it. -/
def numeric (x : ℚ) : Money := Binary64.roundAway (x * 10000)

/-- A stored amount as a number. -/
def amount (m : Money) : ℚ := m / 10000

/-! ## Statements -/

namespace Tables

def event? (t : Tables) (id : Nat) : Option EventRow := t.events.find? fun e => e.id = id

def line? (t : Tables) (id : Nat) : Option LineRow := t.lines.find? fun l => l.id = id

def cost? (t : Tables) (resourceId : Nat) : Option CostRow :=
  t.costs.find? fun c => c.resourceId = resourceId

end Tables

namespace TenantRepository

/-- `get_event_by_id`, of which the row is all that is looked at here. -/
def getEventById (eventId : Nat) : Task (Option EventRow) := Proc.look fun d => d.val.event? eventId

def getResourceById (resourceId : Nat) : Task (Option LineRow) :=
  Proc.look fun d => d.val.line? resourceId

def getResourceCostByResourceId (resourceId : Nat) : Task (Option CostRow) :=
  Proc.look fun d => d.val.cost? resourceId

/-- The lines of an event joined with their types. -/
def joinedLines (t : Tables) (eventId : Nat) : List (LineRow × TypeRow) :=
  (t.lines.filter fun l => l.eventId = eventId).filterMap fun l =>
    (t.types.find? fun y => y.id = l.resourceTypeId).map fun y => (l, y)

/-- `ORDER BY rt.category ASC, rt.name ASC`. -/
def byType [Collation] (a b : LineRow × TypeRow) : Bool :=
  if a.2.category = b.2.category then Collation.le a.2.name b.2.name
  else Collation.le a.2.category b.2.category

def getResourcesForEvent [Collation] (t : Tables) (eventId : Nat) : List (LineRow × TypeRow) :=
  (joinedLines t eventId).mergeSort byType

def createResource (eventId resourceTypeId : Nat) (description : Option String) (quantity : Nat)
    (addedByUserId : Nat) : Prog Nat := do
  let id ← read Tables.lineSeq
  stmt fun t =>
    { t with
      lines := t.lines ++ [{ id, eventId, resourceTypeId, description, quantity, addedByUserId }]
      lineSeq := t.lineSeq + 1 }
  return id

/-- Delete the lines with this property, and by the cascade their costs. -/
def deleteLines (p : LineRow → Bool) : Prog Unit :=
  stmt fun t => { t with
    lines := t.lines.filter fun l => ¬p l
    costs := t.costs.filter fun c => ¬t.lines.any fun l => p l ∧ l.id = c.resourceId }

def deleteResourcesForEvent (eventId : Nat) : Prog Unit := deleteLines fun l => l.eventId = eventId

def deleteResource (resourceId : Nat) : Prog Unit := deleteLines fun l => l.id = resourceId

/-- `UPDATE resources SET … = COALESCE($n, …)`. -/
def updateResource (resourceId : Nat) (resourceTypeId : Option Nat) (description : Option String)
    (quantity : Option Nat) (updatedByUserId : Nat) : Prog Unit :=
  stmt fun t => { t with
    lines := updateWhere (fun l => l.id = resourceId) (fun l =>
      { l with
        resourceTypeId := resourceTypeId.getD l.resourceTypeId
        description := description.or l.description
        quantity := quantity.getD l.quantity
        updatedByUserId := some updatedByUserId }) t.lines }

/-- `INSERT INTO resource_cost … ON CONFLICT (resource_id) DO UPDATE`. -/
def upsertCost (eventId resourceId : Nat) (unitPrice totalCost : ℚ) (currency : String)
    (setByUserId : Nat) : Prog Nat := do
  match ← read fun t => t.cost? resourceId with
  | some row =>
    stmt fun t => { t with
      costs := updateWhere (fun c => c.resourceId = resourceId) (fun c =>
        { c with
          unitPrice := numeric unitPrice
          totalCost := numeric totalCost
          currency
          setByUserId }) t.costs }
    return row.id
  | none =>
    let id ← read Tables.costSeq
    stmt fun t =>
      { t with
        costs := t.costs ++ [{
          id, eventId, resourceId, currency, setByUserId
          unitPrice := numeric unitPrice
          totalCost := numeric totalCost }]
        costSeq := t.costSeq + 1 }
    return id

/-- `set_resource_cost`, with the mark of the write. -/
def setResourceCost (mark : Mark) (resourceId : Nat) (unitPrice totalCost : ℚ) (currency : String)
    (setByUserId : ParsedId) : Task Nat := do
  match ← Proc.look fun d => (d.val.line? resourceId).map LineRow.eventId with
  | none =>
    Proc.fail (.valueError ("Resource with ID " ++ toString resourceId ++ " not found"))
  | some eventId =>
    let setByUserId ← ofExcept setByUserId.column
    Proc.marked mark (upsertCost eventId resourceId unitPrice totalCost currency setByUserId)

end TenantRepository

/-! ## Payloads -/

/-- A resource line of a request; the quantity is positive. -/
structure ResourceLineIn where
  resourceTypeId : Nat
  description : Option String := none
  quantity : Nat
  positive : 0 < quantity := by decide

/-- An update of a line, of which a quantity that is given is positive. -/
structure ResourceLineUpdate where
  resourceTypeId : Option Nat := none
  description : Option String := none
  quantity : Option Nat := none
  positive : ∀ q ∈ quantity, 0 < q := by decide

/-- A unit price with its currency; the price is not negative. -/
structure ResourceCostIn where
  unitPrice : ℚ
  currency : String
  nonneg : 0 ≤ unitPrice := by decide

/-- The summary of the lines of an event; the prices and totals are floats. -/
structure SummaryLine where
  line : LineRow
  type : TypeRow
  unitPrice : ℚ
  totalCost : ℚ
  setByUserId : Option Nat
  deriving DecidableEq

structure ResourceSummary where
  eventId : Nat
  resources : List SummaryLine
  totalCost : ℚ
  currency : Option String
  deriving DecidableEq

/-! ## Services -/

namespace TenantService

open TenantRepository

/-- The event is no draft, or it is gone. -/
def resourcesFixed : PyError :=
  .valueError "Resources can only be modified on draft or resource planning events"

def insertLine (eventId : Nat) (addedByUserId : ParsedId) (r : ResourceLineIn) : Task Unit := do
  let addedByUserId ← ofExcept addedByUserId.column
  let _ ← Proc.once (createResource eventId r.resourceTypeId r.description r.quantity addedByUserId)

def addResourcesToEvent (eventId : Nat) (resourcesList : List ResourceLineIn)
    (addedByUserId : ParsedId) : Task Unit := do
  match ← getEventById eventId with
  | none => Proc.fail resourcesFixed
  | some event =>
    Proc.failIf (event.status ∉ [.draft, .resourcePlanning]) resourcesFixed
    Proc.once (deleteResourcesForEvent eventId)
    resourcesList.forM (insertLine eventId addedByUserId)

/-- The event is published, or it is gone. No status is called `cancelled`. -/
def pricingClosed : PyError :=
  .valueError "Pricing cannot be updated for published or cancelled events"

/-- The total is the product of the price and the quantity as floats. -/
def setResourceCost (resourceId : Nat) (payload : ResourceCostIn) (setByUserId : ParsedId) :
    Task Nat := do
  match ← getResourceById resourceId with
  | none => Proc.fail (.valueError "Resource not found")
  | some resource =>
    match ← getEventById resource.eventId with
    | none => Proc.fail pricingClosed
    | some event =>
      Proc.failIf (event.status = .published) pricingClosed
      TenantRepository.setResourceCost
        (.price resourceId payload.unitPrice resource.quantity payload.currency) resourceId
        payload.unitPrice (Binary64.product payload.unitPrice resource.quantity) payload.currency
        setByUserId

/-- The line with what its cost row says, or with zeros. -/
def summaryLine (r : LineRow × TypeRow) (costInfo : Option CostRow) : SummaryLine where
  line := r.1
  type := r.2
  unitPrice := costInfo.elim 0 fun c => Binary64.fl (amount c.unitPrice)
  totalCost := costInfo.elim 0 fun c => Binary64.fl (amount c.totalCost)
  setByUserId := costInfo.map CostRow.setByUserId

/-- The currency is the school's, whatever those of the lines are. -/
def getResourceSummary [Collation] (eventId : Nat) : Task ResourceSummary := do
  let resources ← Proc.look fun d => getResourcesForEvent d.val eventId
  let schoolProfile ← Proc.look fun d => d.val.profile
  let lines ← resources.mapM fun r => do
    return summaryLine r (← getResourceCostByResourceId r.1.id)
  return {
    eventId
    resources := lines
    totalCost := Binary64.flSum (lines.map SummaryLine.totalCost)
    currency := schoolProfile.map ProfileRow.currency }

end TenantService

namespace EventService

open TenantRepository

def requireEditable (actor : Actor) (event : EventRow) : Task Unit := do
  let editable ← ofExcept (Trips.EventService.isEditable actor event)
  Proc.failIf (¬editable) (.permissionError Trips.EventService.notEditable)

/-- The line and its event, which the actor may edit. -/
def editableLine (resourceId : Nat) (actor : Actor) : Task LineRow := do
  match ← getResourceById resourceId with
  | none => Proc.fail (.valueError "Resource not found")
  | some resource =>
    match ← getEventById resource.eventId with
    | none => Proc.fail (.valueError "Event not found")
    | some event =>
      requireEditable actor event
      return resource

/-- Price the line again for its new quantity, where it is priced. -/
def reprice (resourceId quantity : Nat) (actor : Actor) : Task Unit := do
  match ← getResourceCostByResourceId resourceId with
  | none => return ()
  | some costInfo =>
    let unitPrice := Binary64.fl (amount costInfo.unitPrice)
    let _ ← TenantRepository.setResourceCost
      (.reprice resourceId costInfo.unitPrice quantity costInfo.currency) resourceId unitPrice
      (Binary64.fl (unitPrice * Binary64.fl quantity)) costInfo.currency actor.id

def updateResourceLine (resourceId : Nat) (actor : Actor) (updates : ResourceLineUpdate) :
    Task Unit := do
  let resource ← editableLine resourceId actor
  let resourceTypeId := (updates.resourceTypeId.filter (· ≠ 0)).getD resource.resourceTypeId
  let description := updates.description.or resource.description
  let quantity := updates.quantity.getD resource.quantity
  let updatedByUserId ← ofExcept actor.id.column
  Proc.marked (.quantity resourceId quantity)
    (updateResource resourceId (some resourceTypeId) description (some quantity) updatedByUserId)
  if updates.quantity.isSome then
    reprice resourceId quantity actor

def addResourceLine (eventId : Nat) (actor : Actor) (r : ResourceLineIn) : Task Nat := do
  match ← getEventById eventId with
  | none => Proc.fail (.valueError "Event not found")
  | some event =>
    requireEditable actor event
    let addedByUserId ← ofExcept actor.id.column
    Proc.once (createResource eventId r.resourceTypeId r.description r.quantity addedByUserId)

def deleteResourceLine (resourceId : Nat) (actor : Actor) : Task Unit := do
  let _ ← editableLine resourceId actor
  Proc.once (deleteResource resourceId)

end EventService

/-! ## The profile -/

namespace SchoolService

/-- `ensure_profile_row`: one statement reads the row, another inserts it. -/
def ensureProfileRow : Task ProfileRow := do
  match ← Proc.look fun d => d.val.profile with
  | some row => return row
  | none =>
    Proc.once (stmt fun t => { t with profile := t.profile.or (some {}) })
    return {}

/-- `has_recorded_money`. -/
def hasRecordedMoney (t : Tables) : Bool := t.otherMoney ∨ t.costs ≠ []

/-- The checks on an update of the profile of a school that is live. -/
def checkLive (fields : ProfileUpdate) (current : ProfileRow) (userRole : List String) :
    Task Unit := do
  Proc.failIf (Setup.SchoolService.ChangesCode fields current)
    (.permissionError "'school_code' is immutable after the school has been activated.")
  if Setup.SchoolService.ChangesCurrency fields current then
    Proc.failIf ("super_admin" ∉ userRole)
      (.permissionError "'currency' can only be changed after activation by a super_admin.")
    let money ← Proc.look fun d => hasRecordedMoney d.val
    Proc.failIf money
      (.permissionError ("'currency' is immutable once payments, resource costs, or ticket " ++
        "prices have been recorded."))

def checkUpdate (fields : ProfileUpdate) (current : ProfileRow) (userRole : List String) :
    Task Unit :=
  if current.activatedAt.isSome then checkLive fields current userRole else return ()

def updateProfile (fields : ProfileUpdate) (userRole : List String) : Task Unit := do
  Proc.failIf (¬Setup.SchoolService.IsAdmin userRole)
    (.permissionError "Only school_admin or super_admin can manage school setup.")
  let current ← ensureProfileRow
  checkUpdate fields current userRole
  if fields = {} then
    return ()
  else
    let _ ← ensureProfileRow
    Proc.marked (.profile fields) (stmt fun t => { t with profile := t.profile.map fields.write })

end SchoolService

end Sams.Costs
