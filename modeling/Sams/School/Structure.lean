import Sams.School.FloatText
import Sams.School.Lying
import Sams.School.Roster

/-!
# The structure editor and the structure import

`save_academic_structure` writes the whole calendar, ladder of levels and set of sections from one
payload, in one transaction. Levels are matched by id, then by name, and are never deleted.
Sections are matched by id, then by level and name, over the classes of every year; a section of a
payload level that the payload does not list is deleted.

`import_academic_rows` applies the rows of a file one by one through the upserts, skipping the rows
that do not validate. It deletes nothing, and its classes are those of the active year.
-/

namespace Sams.School

open Programs Rows

/-! ## Payloads -/

structure SectionIn where
  id : Option Nat
  name : Option String
  capacity : Option Int
  deriving DecidableEq, Repr

structure LevelIn where
  levelId : Option Nat
  name : Option String
  fields : TenantRepository.LevelFields
  isActive : Bool
  sections : List SectionIn
  deriving DecidableEq, Repr

structure CalendarIn where
  academicYear : Option String
  startMonth : Option Int
  weekendDays : List String
  deriving DecidableEq, Repr

structure BlackoutIn where
  date : Option String
  title : Option String
  tags : List String
  deriving DecidableEq, Repr

/-- The payload of the structure editor. A field that is absent takes the default of the code. -/
structure StructureIn where
  system : Option String
  calendar : Option CalendarIn
  blackoutDates : List BlackoutIn
  levels : List LevelIn
  deriving DecidableEq, Repr

/-- `(lvl.get("name") or "Grade").strip()`. -/
def LevelIn.cleanName (l : LevelIn) : String := Text.strip ((Text.nonEmpty l.name).getD "Grade")

/-- `(sec.get("name") or f"{lvl_name} - A").strip()`. -/
def SectionIn.cleanName (lvlName : String) (s : SectionIn) : String :=
  Text.strip ((Text.nonEmpty s.name).getD (lvlName ++ " - A"))

/-- `int(sec.get("capacity") or 25)`. -/
def SectionIn.cleanCapacity (s : SectionIn) : Int :=
  if s.capacity.getD 0 = 0 then 25 else s.capacity.getD 0

/-- The section ids a payload mentions anywhere. -/
def StructureIn.sectionIds (p : StructureIn) : List Nat :=
  p.levels.flatMap fun l => l.sections.filterMap fun s => Text.nonZero s.id

/-! ## Dates -/

def daysIn (year month : Nat) : Nat :=
  if month = 2 then
    if year % 4 = 0 ∧ (year % 100 ≠ 0 ∨ year % 400 = 0) then 29 else 28
  else if month ∈ [4, 6, 9, 11] then 30 else 31

/-- A character of the class `[lo-hi]`, which has no digit of another script. -/
def digitIn (lo hi : Nat) (c : Char) : Option Nat :=
  if c.isDigit ∧ lo ≤ c.toNat - 0x30 ∧ c.toNat - 0x30 ≤ hi then some (c.toNat - 0x30) else none

/-- `(?P<Y>\d\d\d\d)-`, and the rest. -/
def readYear [Unicode] : List Char → Option (Nat × List Char)
  | a :: b :: c :: d :: '-' :: rest => do
    let thousands ← Text.decimal a
    let hundreds ← Text.decimal b
    let tens ← Text.decimal c
    let ones ← Text.decimal d
    return (1000 * thousands + 100 * hundreds + 10 * tens + ones, rest)
  | _ => none

/-- `(?P<m>1[0-2]|0[1-9]|[1-9])-`, and the rest. -/
def readMonth : List Char → Option (Nat × List Char)
  | a :: '-' :: rest => (digitIn 1 9 a).map fun m => (m, rest)
  | '1' :: b :: '-' :: rest => (digitIn 0 2 b).map fun m => (10 + m, rest)
  | '0' :: b :: '-' :: rest => (digitIn 1 9 b).map fun m => (m, rest)
  | _ => none

/-- `(?P<d>3[0-1]|[1-2]\d|0[1-9]|[1-9]| [1-9])`, to the end of the text. -/
def readDay [Unicode] : List Char → Option Nat
  | [a] => digitIn 1 9 a
  | ['3', b] => (digitIn 0 1 b).map (30 + ·)
  | ['2', b] => (Text.decimal b).map (20 + ·)
  | ['1', b] => (Text.decimal b).map (10 + ·)
  | ['0', b] => digitIn 1 9 b
  | [' ', b] => digitIn 1 9 b
  | _ => none

/-- `datetime.strptime(s[:10], "%Y-%m-%d").date()`; `none` where it raises. -/
def strptimeDate [Unicode] (s : String) : Option Date := do
  let (year, cs) ← readYear (s.toList.take 10)
  let (month, cs) ← readMonth cs
  let day ← readDay cs
  if 1 ≤ year ∧ day ≤ daysIn year month then some { year, month, day } else none

namespace TenantRepository

variable [Unicode]

/-! ## `save_academic_structure` -/

/-- Part 1: the current settings row is the one with the largest id. -/
def currentSettings (t : Tables) : Option SettingsRow :=
  t.settings.foldl (fun best s => if best.any fun b => s.id ≤ b.id then best else some s) none

def saveSettings (p : StructureIn) : Prog Unit := do
  let system := (Text.nonEmpty p.system).getD "US"
  let cal := p.calendar.getD { academicYear := none, startMonth := none, weekendDays := [] }
  let academicYear := (Text.nonEmpty cal.academicYear).getD "2026-2027"
  let startMonth := if cal.startMonth.getD 0 = 0 then 9 else cal.startMonth.getD 0
  let weekendDays := if cal.weekendDays = [] then ["Saturday", "Sunday"] else cal.weekendDays
  match ← read currentSettings with
  | some row =>
    stmt fun t =>
      { t with
        settings := updateWhere (fun s => s.id = row.id)
          (fun s => { s with system, academicYear, startMonth, weekendDays }) t.settings }
  | none =>
    stmt fun t =>
      { t with
        settings := t.settings ++
          [{ id := t.seq.settings, academicYear, startMonth, weekendDays, system }]
        seq := { t.seq with settings := t.seq.settings + 1 } }

/-- Part 2 for one date: update the row that has the date, else insert one. -/
def saveBlackout (existing : List BlackoutRow) (incoming : List Date) (bd : BlackoutIn) :
    Prog (List Date) := do
  match Text.nonEmpty bd.date with
  | none => return incoming
  | some text =>
    match strptimeDate text with
    | none => throw (.valueError
        ("time data " ++ Text.repr (String.ofList (text.toList.take 10)) ++
         " does not match format '%Y-%m-%d'"))
    | some date =>
      let title := (Text.nonEmpty bd.title).getD "Holiday"
      -- of several rows with one date the dictionary keeps the last
      match existing.reverse.find? fun b => b.date = date with
      | some row =>
        stmt fun t =>
          { t with
            blackouts := updateWhere (fun b => b.id = row.id)
              (fun b => { b with title, tags := bd.tags }) t.blackouts }
      | none =>
        stmt fun t =>
          { t with
            blackouts := t.blackouts ++ [{ id := t.seq.blackout, date, title, tags := bd.tags }]
            seq := { t.seq with blackout := t.seq.blackout + 1 } }
      return incoming ++ [date]

def saveBlackouts (p : StructureIn) : Prog Unit := do
  let existing ← read fun t => t.blackouts
  let incoming ← p.blackoutDates.foldlM (saveBlackout existing) []
  let stale := (existing.map BlackoutRow.date).filter fun d => d ∉ incoming
  stmt fun t => { t with blackouts := t.blackouts.filter fun b => b.date ∉ stale }

/-- What part 3 needs besides the payload. -/
structure SaveContext where
  activeYearId : Option Nat
  defaultTeacherId : Option Nat
  /-- The section ids the payload mentions anywhere. -/
  allIncoming : List Nat
  changedBy : Option Nat
  deriving DecidableEq, Repr

/-- `SELECT id FROM teachers ORDER BY id ASC LIMIT 1`. -/
def firstTeacher (t : Tables) : Option Nat := (t.teachers.map TeacherRow.id).min?

/-- The level a payload level names: by its id, else by its name. -/
def findLevel (t : Tables) (l : LevelIn) : Option Nat :=
  let byId := ((Text.nonZero l.levelId).bind t.level?).map LevelRow.levelId
  match Text.nonZero byId with
  | some id => some id
  | none => (t.levels.find? fun r => sameName r.name l.cleanName).map LevelRow.levelId

def saveLevel (l : LevelIn) : Prog Nat := do
  match Text.nonZero (← read fun t => findLevel t l) with
  | some lvlId =>
    stmt fun t => t.setLevels (fun r => r.levelId = lvlId) fun r =>
      { r with
        name := l.cleanName, iscedLevel := l.fields.iscedLevel, ageBandMin := l.fields.ageBandMin
        ageBandMax := l.fields.ageBandMax, ordinal := l.fields.ordinal, isActive := l.isActive }
    return lvlId
  | none => createLevel l.cleanName l.fields l.isActive

/-- The class a payload section names: by its id, else by its level and name, in any year. -/
def findSection (t : Tables) (lvlId : Nat) (lvlName : String) (s : SectionIn) : Option Nat :=
  let byId := ((Text.nonZero s.id).bind t.class?).map ClassRow.id
  match Text.nonZero byId with
  | some id => some id
  | none =>
    (t.classes.find? fun c => c.levelId = lvlId ∧ sameName c.name (s.cleanName lvlName)).map
      ClassRow.id

/-- One section: rewrite the class it names, else insert one, unless the level is deactivated. -/
def saveSection (ctx : SaveContext) (lvlId : Nat) (l : LevelIn) (incoming : List Nat)
    (s : SectionIn) : Prog (List Nat) := do
  let secName := s.cleanName l.cleanName
  match Text.nonZero (← read fun t => findSection t lvlId l.cleanName s) with
  | some cid =>
    stmt fun t => t.setClasses (fun c => c.id = cid) fun c =>
      { c with
        name := secName, levelId := lvlId, capacity := s.cleanCapacity
        sectionLabel := deriveSectionLabel secName }
    return incoming ++ [cid]
  | none =>
    if ¬l.isActive then
      return incoming
    match ctx.activeYearId with
    | none => throw (.valueError "No active academic year is set for this tenant")
    | some yearId =>
      let id ← read fun t => t.seq.class_
      stmt fun t => t.insertClass
        { id, name := secName, levelId := lvlId, headTeacherId := ctx.defaultTeacherId
          capacity := s.cleanCapacity, isActive := true, academicYearId := yearId
          sectionLabel := deriveSectionLabel secName }
      return incoming ++ [id]

/-- One level with its sections; its classes that the payload does not mention are removed. -/
def saveLevelAndSections (ctx : SaveContext) (l : LevelIn) : Prog Unit := do
  let lvlId ← saveLevel l
  let incoming ← l.sections.foldlM (saveSection ctx lvlId l) []
  let stale ← read fun t =>
    ((t.classes.filter fun c => c.levelId = lvlId).map ClassRow.id).filter fun id =>
      id ∉ incoming ∧ id ∉ ctx.allIncoming
  onlyIf (stale ≠ []) (removeClasses stale ctx.changedBy)

def saveAcademicStructure (p : StructureIn) (changedBy : Option Nat) : Prog Unit :=
  transaction do
    let activeYearId ← getActiveAcademicYearId
    saveSettings p
    saveBlackouts p
    let defaultTeacherId ← read firstTeacher
    p.levels.forM
      (saveLevelAndSections
        { activeYearId, defaultTeacherId, allIncoming := p.sectionIds, changedBy })

/-! ## The structure import -/

/-- One row of an import file: its cells under the canonical column names. -/
structure ImportRow where
  gradeName : Option String
  gradeOrdinal : Option String
  gradeIscedLevel : Option String
  gradeAgeMin : Option String
  gradeAgeMax : Option String
  gradeActive : Option String
  className : Option String
  classCapacity : Option String
  classActive : Option String
  headTeacherEmail : Option String
  deriving DecidableEq, Repr

/-- What the import reports for one row. -/
structure RowResult where
  rowNumber : Nat
  gradeName : String
  className : Option String
  action : String
  valid : Bool
  errors : List String
  warnings : List String
  deriving DecidableEq, Repr

def parseImportBool (value : Option String) (default : Bool) : Bool :=
  match Text.nonEmpty (value.map Text.strip) with
  | none => default
  | some text => decide (Unicode.lower text ∈ ["true", "1", "yes", "y"])

/-- A whole number of a row, or the error to report; an infinity is not caught. -/
def parseImportInt (value : Option String) (fieldLabel : String) :
    Prog (Option Int × List String) :=
  match Text.nonEmpty (value.map Text.strip) with
  | none => pure (none, [])
  | some raw =>
    match FloatText.intOfFloat raw with
    | .ok n => pure (some n, [])
    | .error (.overflowError msg) => throw (.overflowError msg)
    | .error _ => pure (none, [fieldLabel ++ " must be a whole number, got " ++ Text.repr raw])

/-- `(row.get("grade_name") or "").strip()`. -/
def cleanCell (value : Option String) : String := Text.strip (value.getD "")

/-- The ordinals that the grades new in the file get, in the order they appear. -/
abbrev planNewGradeOrdinals (rows : List ImportRow) : Prog (List (String × Int)) :=
  read fun t =>
    let ordinals := t.levels.filterMap LevelRow.ordinal
    let maxOrdinal := ordinals.max?.getD 0
    let existing := t.levels.map fun l => Unicode.lower (Text.strip l.name)
    rows.foldl (fun plan row =>
      let name := cleanCell row.gradeName
      if name = "" ∨ Unicode.lower name ∈ existing ∨ name ∈ plan.map Prod.fst then plan
      else plan ++ [(name, maxOrdinal + plan.length + 1)]) []

/-- `UPPER(u.email) = UPPER($1)`. -/
def sameEmail (a b : String) : Bool := Unicode.sqlUpper a = Unicode.sqlUpper b

def getTeacherByEmail (email : String) : Prog (Option TeacherRow) := do
  sendText (Text.strip email)
  read fun t => t.teachers.find? fun x =>
    (t.users.find? fun u => u.id = x.id).any fun u => sameEmail u.email (Text.strip email)

theorem moves_getTeacherByEmail {R : Db → Db → Prop} [IsPreorder Db R] (email : String) :
    Moves R (getTeacherByEmail email) :=
  moves_bind (moves_raiseIf _ _) fun _ => moves_query _

/-- What the part of a row about its class resolves to. -/
structure ClassPlan where
  name : String
  capacity : Option Int
  active : Bool
  headTeacher : HeadTeacher
  action : String
  errors : List String
  warnings : List String
  deriving DecidableEq, Repr

def resolveHeadTeacher (email : String) : Prog (HeadTeacher × List String) := do
  if email = "" then
    return (.unset, [])
  match ← getTeacherByEmail email with
  | some teacher => return (.value (some teacher.id), [])
  | none => return (.unset,
      ["No teacher found for head_teacher_email " ++ Text.repr email ++
       " -- class will have no head teacher"])

/-- The class a row updates; a grade that is new in the file has none. -/
def existingClass (name : String) (level : Option LevelRow) : Prog (Option ClassRow) :=
  match level with
  | some l => getClassByNameAndLevel name l.levelId none
  | none => pure none

def resolveClass (row : ImportRow) (name : String) (level : Option LevelRow) : Prog ClassPlan := do
  let (capacity, errors) ← parseImportInt row.classCapacity "class_capacity"
  let active := parseImportBool row.classActive true
  let email := cleanCell row.headTeacherEmail
  let (headTeacher, warnings) ← resolveHeadTeacher email
  let existing ← existingClass name level
  let action := if existing.isSome then "update_class" else "create_class"
  return { name, capacity, active, headTeacher, action, errors, warnings }

/-- The writes of one row. -/
def applyRow (gradeName : String) (fields : LevelFields) (gradeActive : Bool)
    (plan : Option ClassPlan) : Prog Unit := do
  let (levelId, _) ← upsertLevelByName gradeName fields gradeActive
  match plan with
  | none => pure ()
  | some c =>
    let _ ← upsertClassByNameAndLevel c.name levelId c.headTeacher c.capacity c.active none

/-- Run `m`; a `ValueError` becomes its message. -/
def catchValueError (m : Prog Unit) : Prog (Option String) :=
  rescue (do m; return none) fun e =>
    match e with
    | .valueError msg => pure (some msg)
    | e => throw e

def resolveClass? (row : ImportRow) (className : Option String) (level : Option LevelRow) :
    Prog (Option ClassPlan) :=
  match className with
  | none => pure none
  | some name => some <$> resolveClass row name level

def resolveImportRow (ordinalPlan : List (String × Int)) (apply : Bool) (rowNumber : Nat)
    (row : ImportRow) : Prog RowResult := do
  let gradeName := cleanCell row.gradeName
  let className := Text.nonEmpty (some (cleanCell row.className))
  let skipped := fun errors warnings =>
    { rowNumber, gradeName, className, action := "skipped", valid := false, errors, warnings
      : RowResult }
  if gradeName = "" then
    return skipped ["grade_name is required"] []
  let (iscedLevel, e₁) ← parseImportInt row.gradeIscedLevel "grade_isced_level"
  let (ageBandMin, e₂) ← parseImportInt row.gradeAgeMin "grade_age_min"
  let (ageBandMax, e₃) ← parseImportInt row.gradeAgeMax "grade_age_max"
  let (gradeOrdinal, e₄) ← parseImportInt row.gradeOrdinal "grade_ordinal"
  let gradeActive := parseImportBool row.gradeActive true
  let existingLevel ← getLevelByName gradeName
  let gradeAction := if existingLevel.isSome then "update_grade" else "create_grade"
  let ordinal :=
    if gradeOrdinal.isNone ∧ existingLevel.isNone then ordinalPlan.lookup gradeName
    else gradeOrdinal
  let plan ← resolveClass? row className existingLevel
  let errors := e₁ ++ e₂ ++ e₃ ++ e₄ ++ (plan.map ClassPlan.errors).getD []
  let warnings := (plan.map ClassPlan.warnings).getD []
  if errors ≠ [] then
    return skipped errors warnings
  let action := match plan with
    | none => gradeAction
    | some c => gradeAction ++ "+" ++ c.action
  let result : RowResult :=
    { rowNumber, gradeName, className, action, valid := true, errors := [], warnings }
  if ¬apply then
    return result
  match ← catchValueError
      (applyRow gradeName { iscedLevel, ageBandMin, ageBandMax, ordinal } gradeActive plan) with
  | some msg => return skipped [msg] warnings
  | none => return result

/-- What the import counts. -/
structure ImportReport where
  totalRows : Nat
  appliedRows : Nat
  skippedRows : Nat
  createdGrades : Nat
  updatedGrades : Nat
  createdClasses : Nat
  updatedClasses : Nat
  deriving DecidableEq, Repr

/-- The counts are those of the actions of the rows that were applied. -/
def importReport (results : List RowResult) : ImportReport :=
  let applied := results.filter RowResult.valid
  { totalRows := results.length
    appliedRows := applied.length
    skippedRows := results.length - applied.length
    createdGrades := applied.countP fun r => Text.startsWith r.action "create_grade"
    updatedGrades := applied.countP fun r => Text.startsWith r.action "update_grade"
    createdClasses := applied.countP fun r => Text.endsWith r.action "create_class"
    updatedClasses := applied.countP fun r => Text.endsWith r.action "update_class" }

/-- Preview: every row is validated and none is written. -/
def previewImportRows (rows : List ImportRow) : Prog (List RowResult) := do
  let plan ← planNewGradeOrdinals rows
  rows.zipIdx.mapM fun p => resolveImportRow plan false (p.2 + 2) p.1

/-- Apply every valid row; each statement commits by itself. -/
def importAcademicRows (rows : List ImportRow) : Prog (List RowResult) := do
  let plan ← planNewGradeOrdinals rows
  rows.zipIdx.mapM fun p => resolveImportRow plan true (p.2 + 2) p.1

/-- The import, where the rows of the tables lie as `lying n` says when it comes to row `n`. -/
def importAcademicRowsLying (lying : Nat → Lying) (rows : List ImportRow) :
    Prog (List RowResult) := do
  let plan ← planNewGradeOrdinals rows
  rows.zipIdx.mapM fun p => do
    lay (lying p.2)
    resolveImportRow plan true (p.2 + 2) p.1

end TenantRepository

namespace TenantService

open TenantRepository

variable [Unicode]

/-- The curriculum system that readers see. -/
def currentSystem (t : Tables) : String :=
  (Text.nonEmpty ((currentSettings t).map SettingsRow.system)).getD "US"

def curriculumLockedMessage : String :=
  "The curriculum system is locked after school activation and cannot be changed. " ++
  "Grades and class sections can still be edited."

def saveAcademicStructure (userRole : List String) (p : StructureIn) (changedBy : Option Nat) :
    Prog Unit := do
  gate userRole (adminRoles ++ ["level:manage", "level:create", "school:write"])
    "Insufficient permissions to manage structure."
  let locked ← read Tables.curriculumLocked
  let system ← read currentSystem
  raiseIf (locked ∧ (Text.nonEmpty p.system).any (· ≠ system))
    (.permissionError curriculumLockedMessage)
  TenantRepository.saveAcademicStructure p changedBy

def importPermissions : List String :=
  adminRoles ++ ["level:create", "level:manage", "class:create", "school:write"]

def importDenied : String := "Insufficient permissions to import academic structure."

def previewStructureImport (userRole : List String) (rows : List ImportRow) :
    Prog (List RowResult) := do
  gate userRole importPermissions importDenied
  previewImportRows rows

def commitStructureImport (userRole : List String) (rows : List ImportRow) :
    Prog (List RowResult) := do
  gate userRole importPermissions importDenied
  importAcademicRows rows

end TenantService

end Sams.School
