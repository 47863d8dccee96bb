import Mathlib.Data.List.Sort
import Sams.Authz
import Sams.School.Tables

/-!
# Academic years and the year rollover

The operations of `TenantRepository` on `academic_years`, `year_rollover` and
`year_rollover_line`, and the service operations over them: create a year, generate, show,
override, preview and commit a rollover.

A rollover goes `draft → previewed → committed`. Generating and previewing recompute its lines
from the students who are placed in `from_year` at that moment. Committing reads only the lines:
one transaction that opens the classes of `to_year`, moves every student by the effective action
of its line, closes `from_year` and activates `to_year`.

Texts are ordered by code point, the `C` collation.
-/

namespace Sams.School

open Programs Rows

/-! ## Rows by key -/

namespace Tables

def year? (t : Tables) (id : Nat) : Option YearRow := t.years.find? fun y => y.id = id

def level? (t : Tables) (id : Nat) : Option LevelRow := t.levels.find? fun l => l.levelId = id

def class? (t : Tables) (id : Nat) : Option ClassRow := t.classes.find? fun c => c.id = id

def student? (t : Tables) (id : Nat) : Option StudentRow := t.students.find? fun s => s.id = id

def rollover? (t : Tables) (id : Nat) : Option RolloverRow := t.rollovers.find? fun r => r.id = id

def line? (t : Tables) (id : Nat) : Option LineRow := t.lines.find? fun l => l.id = id

/-- The class of a name in a year, unique by the constraint. -/
def classNamed (t : Tables) (name : String) (year : Nat) : Option ClassRow :=
  t.classes.find? fun c => c.name = name ∧ c.academicYearId = year

/-- The lines of one rollover. -/
def linesOf (t : Tables) (rid : Nat) : List LineRow := t.lines.filter fun l => l.rolloverId = rid

/-! ## Raw updates -/

def setYears (t : Tables) (p : YearRow → Bool) (f : YearRow → YearRow) : Tables :=
  { t with years := updateWhere p f t.years }

def setStudents (t : Tables) (p : StudentRow → Bool) (f : StudentRow → StudentRow) : Tables :=
  { t with students := updateWhere p f t.students }

def setRollovers (t : Tables) (p : RolloverRow → Bool) (f : RolloverRow → RolloverRow) : Tables :=
  { t with rollovers := updateWhere p f t.rollovers }

def setLines (t : Tables) (p : LineRow → Bool) (f : LineRow → LineRow) : Tables :=
  { t with lines := updateWhere p f t.lines }

def insertClass (t : Tables) (c : ClassRow) : Tables :=
  { t with classes := t.classes ++ [c], seq := { t.seq with class_ := t.seq.class_ + 1 } }

def insertHistory (t : Tables) (h : ClassChangeRow) : Tables :=
  { t with history := t.history ++ [h], seq := { t.seq with history := t.seq.history + 1 } }

def insertLine (t : Tables) (l : LineRow) : Tables :=
  { t with lines := t.lines ++ [l], seq := { t.seq with line := t.seq.line + 1 } }

end Tables

/-! ## `TenantRepository`, academic years -/

namespace TenantRepository

abbrev getActiveAcademicYearId : Prog (Option Nat) :=
  read fun t => (t.years.find? fun y => y.status = .active).map YearRow.id

abbrev getAcademicYearById (yearId : Nat) : Prog (Option YearRow) := read fun t => t.year? yearId

def createAcademicYear (name : String) (startDate endDate : Option Date) : Prog Nat := do
  let id ← read fun t => t.seq.year
  stmt fun t =>
    { t with
      years := t.years ++
        [{ id, name := Text.strip name, status := .planned, startDate, endDate,
           rolledFromId := none }]
      seq := { t.seq with year := id + 1 } }
  return id

/-! ## `TenantRepository`, rollovers -/

/-- One row of `get_rollover_plan_facts`. -/
structure PlanFact where
  studentId : Nat
  fromClassId : Nat
  fromClassCapacity : Int
  fromClassActive : Bool
  sectionLabel : Option String
  fromOrdinal : Option Int
  /-- The level whose ordinal is one more, if there is one. -/
  toLevelId : Option Nat
  deriving DecidableEq, Repr

/-- The levels a class of level `l` clones forward to; `[none]` when there is none. -/
def nextLevels (t : Tables) (l : LevelRow) : List (Option Nat) :=
  let next := t.levels.filter fun nl => l.ordinal.isSome ∧ nl.ordinal = l.ordinal.map (· + 1)
  if next = [] then [none] else next.map fun nl => some nl.levelId

/-- The enrolled students placed in `fromYear`, joined with their class and its level. -/
def planFacts (t : Tables) (fromYear : Nat) : List PlanFact :=
  (t.students.filter fun s => s.status = .enrolled).flatMap fun s =>
    (t.classes.filter fun c => s.classId = some c.id ∧ c.academicYearId = fromYear).flatMap fun c =>
      (t.levels.filter fun l => l.levelId = c.levelId).flatMap fun l =>
        (nextLevels t l).map fun nl =>
          { studentId := s.id, fromClassId := c.id, fromClassCapacity := c.capacity
            fromClassActive := c.isActive, sectionLabel := c.sectionLabel
            fromOrdinal := l.ordinal, toLevelId := nl }

/-- `ordinal + 1` leaves the range of the column for the largest ordinal. -/
def getRolloverPlanFacts (fromYearId : Nat) : Prog (List PlanFact) := do
  let facts ← read fun t => planFacts t fromYearId
  raiseIf (facts.any fun f => f.fromOrdinal = some 2147483647) .databaseError
  return facts

abbrev getYearRolloverByYears (fromYearId toYearId : Nat) : Prog (Option RolloverRow) :=
  read fun t => t.rollovers.find? fun r => r.fromYearId = fromYearId ∧ r.toYearId = toYearId

abbrev getYearRolloverById (rolloverId : Nat) : Prog (Option RolloverRow) :=
  read fun t => t.rollover? rolloverId

/-- Insert the rollover as a draft; the pair's existing rollover, in whatever state, is returned
instead when there is one. -/
def createYearRollover (fromYearId toYearId : Nat) (createdBy : Option Nat) :
    Prog (Option RolloverRow) := do
  let existing ← getYearRolloverByYears fromYearId toYearId
  if existing.isSome then
    return existing
  let id ← read fun t => t.seq.rollover
  let row : RolloverRow :=
    { id, fromYearId, toYearId, state := .draft, summary := none
      createdBy := Text.nonZero createdBy }
  stmt fun t =>
    { t with rollovers := t.rollovers ++ [row], seq := { t.seq with rollover := id + 1 } }
  return some row

def updateRolloverState (rolloverId : Nat) (state : RolloverState) (summary : Option Summary) :
    Prog Unit :=
  stmt fun t => t.setRollovers (fun r => r.id = rolloverId)
    fun r => { r with state, summary := summary.or r.summary }

/-- A line the engine proposes, before it is stored. -/
structure ProposedLine where
  studentId : Nat
  fromClassId : Nat
  toLevelId : Option Nat
  toSectionLabel : Option String
  proposedAction : RolloverAction
  exceptionCode : Option ExceptionCode
  capacity : Int
  deriving DecidableEq, Repr

/-- One row of `upsert_rollover_lines`: a stored override keeps the target it was given. -/
def upsertLine (t : Tables) (rid : Nat) (line : ProposedLine) : Tables :=
  if t.lines.any fun l => l.rolloverId = rid ∧ l.studentId = line.studentId then
    t.setLines (fun l => l.rolloverId = rid ∧ l.studentId = line.studentId) fun l =>
      { l with
        fromClassId := some line.fromClassId
        proposedAction := line.proposedAction
        exceptionCode := line.exceptionCode
        toLevelId := if l.overrideAction.isNone then line.toLevelId else l.toLevelId
        toSectionLabel :=
          if l.overrideAction.isNone then line.toSectionLabel else l.toSectionLabel }
  else
    t.insertLine
      { id := t.seq.line, rolloverId := rid, studentId := line.studentId
        fromClassId := some line.fromClassId, toLevelId := line.toLevelId
        toSectionLabel := line.toSectionLabel, toClassId := none
        proposedAction := line.proposedAction, overrideAction := none
        exceptionCode := line.exceptionCode, applied := false }

/-- Store the proposals of a rollover and drop the lines of students they do not mention. -/
def upsertRolloverLines (rolloverId : Nat) (lines : List ProposedLine) : Prog Unit :=
  transaction do
    stmt fun t =>
      { t with
        lines := t.lines.filter fun l =>
          ¬(l.rolloverId = rolloverId ∧ l.studentId ∉ lines.map ProposedLine.studentId) }
    lines.forM fun line => stmt fun t => upsertLine t rolloverId line

/-- A line as it is shown, with the names of its student, class and level. -/
structure LineView where
  line : LineRow
  studentName : String
  fromClassName : Option String
  toLevelName : Option String
  toLevelOrdinal : Option Int
  deriving DecidableEq, Repr

/-- `a ≤ b` with `none` last. -/
def nullsLast {α : Type} [LE α] [DecidableLE α] : Option α → Option α → Bool
  | some a, some b => decide (a ≤ b)
  | some _, none => true
  | none, some _ => false
  | none, none => true

/-- `ORDER BY ordinal NULLS LAST, to_section_label, name`. -/
def LineView.le (a b : LineView) : Bool :=
  if a.toLevelOrdinal ≠ b.toLevelOrdinal then nullsLast a.toLevelOrdinal b.toLevelOrdinal
  else if a.line.toSectionLabel ≠ b.line.toSectionLabel then
    nullsLast a.line.toSectionLabel b.line.toSectionLabel
  else decide (a.studentName ≤ b.studentName)

def lineView (t : Tables) (l : LineRow) : Option LineView :=
  (t.student? l.studentId).map fun s =>
    { line := l, studentName := s.name
      fromClassName := (l.fromClassId.bind t.class?).map ClassRow.name
      toLevelName := (l.toLevelId.bind t.level?).map LevelRow.name
      toLevelOrdinal := (l.toLevelId.bind t.level?).bind LevelRow.ordinal }

abbrev getRolloverLines (rolloverId : Nat) : Prog (List LineView) :=
  read fun t => ((t.linesOf rolloverId).filterMap (lineView t)).insertionSort fun a b => a.le b

abbrev getRolloverLineById (lineId : Nat) : Prog (Option LineRow) := read fun t => t.line? lineId

/-- Store an override. A target that is not given leaves the line's target as it is. -/
def setRolloverLineOverride (lineId : Nat) (overrideAction : Option RolloverAction)
    (toLevelId : Option Nat) (toSectionLabel : Option String) : Prog (Option LineRow) := do
  stmt fun t => t.setLines (fun l => l.id = lineId) fun l =>
    { l with
      overrideAction
      toLevelId := (Text.nonZero toLevelId).or l.toLevelId
      toSectionLabel := toSectionLabel.or l.toSectionLabel }
  getRolloverLineById lineId

/-- Append one row to the placement history. -/
def recordClassChange (studentId : Nat) (oldClassId newClassId changedBy : Option Nat) :
    Prog Unit :=
  stmt fun t => t.insertHistory
    { id := t.seq.history, studentId, oldClassId, newClassId, changedBy := Text.nonZero changedBy }

/-! ### The commit -/

def subscriptError : PyError := .typeError "'NoneType' object is not subscriptable"

/-- Step 1 for one line: find or open the class of `to_year` it is promoted into. A class that
already has the name in that year is reused as it stands. -/
def resolveTarget (toYearId : Nat) (resolved : List (TargetKey × Nat)) (line : LineRow) :
    Prog (List (TargetKey × Nat)) := do
  if line.effective ≠ .promote then
    return resolved
  if (resolved.lookup line.target).isSome ∨ Text.nonZero line.fromClassId = none then
    return resolved
  let source ← read fun t => line.fromClassId.bind t.class?
  let levelRow ← read fun t => line.toLevelId.bind t.level?
  match levelRow, source with
  | some level, some src =>
    let targetName := level.name ++ " - " ++ Text.showOption line.toSectionLabel
    match ← read fun t => t.classNamed targetName toYearId with
    | some c => return resolved ++ [(line.target, c.id)]
    | none =>
      let id ← read fun t => t.seq.class_
      stmt fun t => t.insertClass
        { id, name := targetName, levelId := level.levelId, headTeacherId := src.headTeacherId
          capacity := src.capacity, isActive := true, academicYearId := toYearId
          sectionLabel := line.toSectionLabel }
      return resolved ++ [(line.target, id)]
  | _, _ => throw subscriptError

/-- Move one student: the write and its history row. -/
def moveStudent (line : LineRow) (newClassId : Option Nat) (f : StudentRow → StudentRow)
    (changedBy : Option Nat) : Prog Unit := do
  stmt fun t => t.setStudents (fun s => s.id = line.studentId) f
  recordClassChange line.studentId line.fromClassId newClassId changedBy

def showId (n : Option Nat) : String := Text.showOption (n.map toString)

def unresolvedTarget [Unicode] (line : LineRow) : PyError :=
  .valueError
    ("Rollover line " ++ toString line.id ++ " (student " ++ toString line.studentId ++ ") " ++
     "could not resolve a target class for level=" ++ showId line.toLevelId ++
     ", section=" ++ Text.reprOption line.toSectionLabel ++ " -- aborting commit")

/-- Step 2 for one line: apply its effective action. A held line is left alone. -/
def applyLine [Unicode] (resolved : List (TargetKey × Nat)) (exitDate : Option Date)
    (changedBy : Option Nat) (applied : List Nat) (line : LineRow) : Prog (List Nat) :=
  match line.effective with
  | .promote =>
    match Text.nonZero (resolved.lookup line.target) with
    | none => throw (unresolvedTarget line)
    | some target => do
      stmt fun t => t.setStudents (fun s => s.id = line.studentId)
        fun s => { s with classId := some target }
      stmt fun t => t.setLines (fun l => l.id = line.id)
        fun l => { l with toClassId := some target }
      recordClassChange line.studentId line.fromClassId (some target) changedBy
      return applied ++ [line.id]
  | .graduate => do
    moveStudent line none
      (fun s => { s with classId := none, status := .graduated, exitedOn := exitDate }) changedBy
    return applied ++ [line.id]
  | .withdraw => do
    moveStudent line none
      (fun s => { s with classId := none, status := .withdrawn, exitedOn := exitDate }) changedBy
    return applied ++ [line.id]
  | .hold => return applied

/-- Step 3: close `from_year`, then activate `to_year`. -/
def flipYears (fromYearId toYearId : Nat) : Prog Unit := do
  stmt fun t => t.setYears (fun y => y.id = fromYearId) fun y => { y with status := .closed }
  stmt fun t => t.setYears (fun y => y.id = toYearId)
    fun y => { y with status := .active, rolledFromId := some fromYearId }

def summaryOf (lines : List LineRow) : Summary where
  promoted := lines.countP fun l => l.effective = .promote
  graduated := lines.countP fun l => l.effective = .graduate
  withdrawn := lines.countP fun l => l.effective = .withdraw
  held := lines.countP fun l => l.effective = .hold

/-- The body of the commit once the rollover is known to be previewed. -/
def commitPreviewed [Unicode] (rollover : RolloverRow) (changedBy : Option Nat) :
    Prog (Option RolloverRow) := do
  stmt fun t => t.setRollovers (fun r => r.id = rollover.id)
    fun r => { r with state := .committing }
  let lines ← read fun t => (t.linesOf rollover.id).filter fun l => ¬l.applied
  let resolved ← lines.foldlM (resolveTarget rollover.toYearId) []
  let exitDate ← read fun t => (t.year? rollover.fromYearId).bind YearRow.endDate
  let applied ← lines.foldlM (applyLine resolved exitDate (Text.nonZero changedBy)) []
  stmt fun t => t.setLines (fun l => l.id ∈ applied ∧ ¬l.applied) fun l =>
    { l with applied := true }
  flipYears rollover.fromYearId rollover.toYearId
  stmt fun t => t.setRollovers (fun r => r.id = rollover.id)
    fun r => { r with state := .committed, summary := some (summaryOf lines) }
  getYearRolloverById rollover.id

/-- One transaction: a committed rollover is returned as it is, a previewed one is committed. -/
def commitYearRollover [Unicode] (rolloverId : Nat) (changedBy : Option Nat) :
    Prog (Option RolloverRow) :=
  transaction do
    match ← getYearRolloverById rolloverId with
    | none => throw (.valueError s!"Rollover {rolloverId} not found")
    | some rollover =>
      match rollover.state with
      | .committed => return some rollover
      | .previewed => commitPreviewed rollover changedBy
      | state => throw (.valueError
          ("Rollover must be previewed before it can be committed " ++
           "(current state: " ++ state.show ++ ")"))

end TenantRepository

/-! ## `TenantService` -/

namespace TenantService

open TenantRepository

def rolloverRoles : List String := ["school_admin", "super_admin"]

/-- Raise `PermissionError` unless the caller passes the gate. -/
def gate (userRole allowed : List String) (msg : String) : Prog Unit :=
  raiseIf (¬Authz.require userRole allowed) (.permissionError msg)

def createAcademicYear (userRole : List String) (name : String) (startDate endDate : Option Date) :
    Prog (Option YearRow) := do
  gate userRole rolloverRoles "Only a school admin can define an academic year"
  let yearId ← TenantRepository.createAcademicYear name startDate endDate
  getAcademicYearById yearId

/-- What the engine proposes for one student: no next level, graduate; a class that does not clone
forward, hold; otherwise promote into the same section of the next level. -/
def propose (fact : PlanFact) : ProposedLine :=
  let line := fun toLevelId toSectionLabel proposedAction exceptionCode =>
    { studentId := fact.studentId, fromClassId := fact.fromClassId, toLevelId, toSectionLabel
      proposedAction, exceptionCode, capacity := fact.fromClassCapacity : ProposedLine }
  if fact.toLevelId = none then
    line none none .graduate (some .noNextLevel)
  else if ¬fact.fromClassActive ∨ Text.nonEmpty fact.sectionLabel = none then
    line none none .hold (some .noPlacement)
  else
    line fact.toLevelId fact.sectionLabel .promote none

/-- The cell a line's student ends up in: the target of a stored override, else the proposal's. -/
def effectiveTarget (existing : Option LineRow) (line : ProposedLine) : Option TargetKey :=
  match existing.bind LineRow.overrideAction with
  | some action => if action = .promote then existing.map LineRow.target else none
  | none =>
    if line.proposedAction = .promote then some (line.toLevelId, line.toSectionLabel) else none

/-- The capacity the class of a cell will have: that of the first line that maps there by its own
proposal, else 25. -/
def capacityFor (existing : Nat → Option LineRow) (lines : List ProposedLine) (key : TargetKey) :
    Int :=
  let own := lines.find? fun l =>
    effectiveTarget (existing l.studentId) l = some key ∧ l.proposedAction = .promote
  match own with
  | some l => if l.capacity = 0 then 25 else l.capacity
  | none => 25

/-- Flag the lines of every cell that more students end up in than it will hold. -/
def flagOverCapacity (existing : Nat → Option LineRow) (lines : List ProposedLine) :
    List ProposedLine :=
  lines.map fun l =>
    match effectiveTarget (existing l.studentId) l with
    | none => l
    | some key =>
      let group := lines.filter fun l' => effectiveTarget (existing l'.studentId) l' = some key
      if (group.length : Int) > capacityFor existing lines key then
        { l with exceptionCode := some .overCapacity }
      else l

/-- Shared by generate and preview: recompute every proposal, keeping stored overrides. -/
def recomputeRolloverLines (rolloverId fromYearId : Nat) : Prog Unit := do
  let facts ← getRolloverPlanFacts fromYearId
  let views ← getRolloverLines rolloverId
  let existing := fun sid => (views.find? fun v => v.line.studentId = sid).map LineView.line
  upsertRolloverLines rolloverId (flagOverCapacity existing (facts.map propose))

/-- A rollover as it is shown. -/
structure RolloverView where
  rollover : RolloverRow
  lines : List LineView
  blocking : List Nat
  deriving DecidableEq, Repr

def rolloverNotFound (rolloverId : Nat) : PyError :=
  .valueError s!"Rollover {rolloverId} not found"

def getRollover (userRole : List String) (rolloverId : Nat) : Prog RolloverView := do
  gate userRole rolloverRoles "Only a school admin can view a rollover plan"
  match ← getYearRolloverById rolloverId with
  | none => throw (rolloverNotFound rolloverId)
  | some rollover =>
    let lines ← getRolloverLines rolloverId
    return { rollover, lines
             blocking := (lines.filter fun v => v.line.effective = .hold).map fun v => v.line.id }

def generateRolloverPlan (userRole : List String) (fromYearId toYearId : Nat)
    (createdBy : Option Nat) : Prog RolloverView := do
  gate userRole rolloverRoles "Only a school admin can run year rollover"
  let fromYear ← getAcademicYearById fromYearId
  let toYear ← getAcademicYearById toYearId
  match fromYear, toYear with
  | none, _ => throw (.valueError s!"Academic year {fromYearId} not found")
  | _, none => throw (.valueError s!"Academic year {toYearId} not found")
  | some fy, some ty =>
    raiseIf (fy.status ≠ .active)
      (.valueError "Rollover can only be planned from the currently active academic year")
    raiseIf (ty.status ≠ .planned)
      (.valueError "The target academic year must be 'planned' (not yet active or closed)")
    match ← createYearRollover fromYearId toYearId createdBy with
    | none => throw subscriptError
    | some rollover =>
      recomputeRolloverLines rollover.id fromYearId
      getRollover userRole rollover.id

/-- The action an override names. -/
def RolloverAction.ofString? : String → Option RolloverAction
  | "promote" => some .promote
  | "graduate" => some .graduate
  | "hold" => some .hold
  | "withdraw" => some .withdraw
  | _ => none

def noTargetMessage : String :=
  "Cannot override to 'promote' without a resolved target -- " ++
  "pass both to_level_id and to_section_label to resolve the placement first"

/-- The part of the override after its action has been recognised. -/
def overrideWith (lineId : Nat) (action : Option RolloverAction) (toLevelId : Option Nat)
    (toSectionLabel : Option String) : Prog (Option LineRow) := do
  match ← getRolloverLineById lineId with
  | none => throw (.valueError s!"Rollover line {lineId} not found")
  | some line =>
    let effectiveLevel := toLevelId.or line.toLevelId
    let effectiveSection := toSectionLabel.or line.toSectionLabel
    raiseIf (action = some .promote ∧
        ¬((Text.nonZero effectiveLevel).isSome ∧ (Text.nonEmpty effectiveSection).isSome))
      (.valueError noTargetMessage)
    setRolloverLineOverride lineId action toLevelId toSectionLabel

def overrideRolloverLine (userRole : List String) (lineId : Nat) (overrideAction : Option String)
    (toLevelId : Option Nat) (toSectionLabel : Option String) : Prog (Option LineRow) := do
  gate userRole rolloverRoles "Only a school admin can override a rollover line"
  match overrideAction with
  | none => overrideWith lineId none toLevelId toSectionLabel
  | some name =>
    match RolloverAction.ofString? name with
    | none => throw (.valueError s!"Invalid override action: {name}")
    | some action => overrideWith lineId (some action) toLevelId toSectionLabel

def previewRollover (userRole : List String) (rolloverId : Nat) : Prog RolloverView := do
  gate userRole rolloverRoles "Only a school admin can preview a rollover plan"
  match ← getYearRolloverById rolloverId with
  | none => throw (rolloverNotFound rolloverId)
  | some rollover =>
    raiseIf (rollover.state = .committed) (.valueError "This rollover has already been committed")
    recomputeRolloverLines rolloverId rollover.fromYearId
    let lines ← getRolloverLines rolloverId
    let blocking := lines.filter fun v => v.line.effective = .hold
    raiseIf (blocking ≠ []) (.valueError
      (toString blocking.length ++ " student(s) have no resolved placement and must be " ++
       "overridden before this rollover can advance to preview"))
    updateRolloverState rolloverId .previewed none
    getRollover userRole rolloverId

def commitRollover [Unicode] (userRole : List String) (rolloverId : Nat) (changedBy : Option Nat) :
    Prog (Option RolloverRow) := do
  gate userRole rolloverRoles "Only a school admin can commit a rollover"
  commitYearRollover rolloverId changedBy

end TenantService

end Sams.School
