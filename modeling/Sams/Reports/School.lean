import Mathlib.Algebra.Ring.Int.Defs
import Mathlib.Data.List.Dedup
import Sams.Lib.Csv
import Sams.Lib.Groups
import Sams.Lib.Paging
import Sams.School.System

/-!
# The report of a school

Three tables about one school: the students of each class, the enrollments of each published trip,
and the payments of each status. The first is also exported as CSV.

* **`report_accounts`**: nothing is left out of the report, and nothing is in it twice.
* **`export_read`**: a reader of the exported file finds the rows of the table.
-/

namespace Sams.Reports

open School Programs Rows Groups

/-! ## The queries -/

/-- A row of `get_enrollment_by_class`. -/
structure ClassHeadcount where
  classId : Nat
  levelName : String
  className : String
  studentCount : Nat
  capacity : Int
  deriving DecidableEq, Repr

/-- A row of `get_event_participation_report`. -/
structure Participation where
  eventId : Nat
  title : String
  date : Timestamp
  totalEnrollments : Nat
  confirmed : Nat
  rejected : Nat
  deriving DecidableEq, Repr

/-- A row of `get_payment_status_report`. -/
structure PaymentTotal where
  status : PaymentStatus
  count : Nat
  totalAmount : Money
  deriving DecidableEq, Repr

/-- `ORDER BY l.ordinal NULLS LAST, l.name, c.name`. -/
def byLevel [Collation] (x y : LevelRow × ClassRow) : Bool :=
  if x.1.ordinal ≠ y.1.ordinal then TenantRepository.nullsLast x.1.ordinal y.1.ordinal
  else if x.1.name ≠ y.1.name then Collation.le x.1.name y.1.name
  else Collation.le x.2.name y.2.name

/-- `class c JOIN levels l ON l.level_id = c.level_id`. -/
def classLevels (t : Tables) : List (LevelRow × ClassRow) :=
  t.classes.flatMap fun c => (t.levels.filter fun l => l.levelId = c.levelId).map fun l => (l, c)

/-- The enrollments in an event: those of its class mappings. -/
def enrollmentsIn (t : Tables) (eventId : Nat) : List EnrollmentRow :=
  (t.eventClasses.filter fun m => m.eventId = eventId).flatMap fun m =>
    t.enrollments.filter fun n => n.eventClassMapId = m.id

def published (t : Tables) : List EventRow := t.events.filter fun e => e.status = .published

namespace TenantRepository

def headcount (t : Tables) (x : LevelRow × ClassRow) : ClassHeadcount where
  classId := x.2.id
  levelName := x.1.name
  className := x.2.name
  studentCount := count StudentRow.classId t.students (some x.2.id)
  capacity := x.2.capacity

def enrollmentByClass [Collation] (t : Tables) : List ClassHeadcount :=
  ((classLevels t).insertionSort fun x y => byLevel x y).map (headcount t)

abbrev getEnrollmentByClass [Collation] : Prog (List ClassHeadcount) := read enrollmentByClass

def participation (t : Tables) (e : EventRow) : Participation where
  eventId := e.id
  title := e.title
  date := e.date
  totalEnrollments := (enrollmentsIn t e.id).length
  confirmed := (enrollmentsIn t e.id).countP fun n => n.state = .approvedByTeacher
  rejected :=
    (enrollmentsIn t e.id).countP fun n => n.state ∈ [.rejectedByParent, .rejectedByTeacher]

/-- Newest trip first. -/
def eventParticipation (t : Tables) : List Participation :=
  (Paging.newestFirst EventRow.date (published t)).map (participation t)

abbrev getEventParticipationReport : Prog (List Participation) := read eventParticipation

/-- The statuses that some payment has. -/
def paymentStatuses (t : Tables) : List PaymentStatus := (t.payments.map PaymentRow.status).dedup

def paymentTotals (t : Tables) : List PaymentTotal :=
  (paymentStatuses t).map fun status =>
    { status
      count := count PaymentRow.status t.payments status
      totalAmount := total PaymentRow.status PaymentRow.amount t.payments status }

abbrev getPaymentStatusReport : Prog (List PaymentTotal) := read paymentTotals

abbrev getActiveAcademicYearName : Prog (Option String) :=
  read fun t =>
    (Paging.newestFirst YearRow.id (t.years.filter fun y => y.status = .active)).head?.map
    YearRow.name

end TenantRepository

structure SchoolReport where
  activeYearName : Option String
  enrollmentByClass : List ClassHeadcount
  eventParticipation : List Participation
  paymentStatus : List PaymentTotal
  deriving DecidableEq, Repr

namespace AnalyticsService

/-- The four queries are made side by side; here one after the other. -/
def getSchoolReport [Collation] : Prog SchoolReport := do
  let activeYearName ← TenantRepository.getActiveAcademicYearName
  let enrollmentByClass ← TenantRepository.getEnrollmentByClass
  let eventParticipation ← TenantRepository.getEventParticipationReport
  let paymentStatus ← TenantRepository.getPaymentStatusReport
  return { activeYearName, enrollmentByClass, eventParticipation, paymentStatus }

def csvHeader : List String := ["level_name", "class_name", "student_count", "capacity"]

def csvRow (row : ClassHeadcount) : List String :=
  [row.levelName, row.className, toString row.studentCount, toString row.capacity]

def getSchoolReportCsv [Collation] : Prog String := do
  let rows ← TenantRepository.getEnrollmentByClass
  return Csv.writeText Csv.excel (csvHeader :: rows.map csvRow)

end AnalyticsService

open TenantRepository AnalyticsService

/-! ## The students of each class -/

section Order

theorem nullsLast_refl (a : Option Int) : nullsLast a a = true := by
  cases a with
  | none => rfl
  | some n => exact decide_eq_true (le_refl n)

theorem nullsLast_trans {a b c : Option Int} (hab : nullsLast a b = true)
    (hbc : nullsLast b c = true) :
    nullsLast a c = true := by
  cases a <;> cases b <;> cases c <;> simp [nullsLast] at hab hbc ⊢
  omega

theorem nullsLast_of_not {a b : Option Int} (h : ¬nullsLast a b = true) : nullsLast b a = true := by
  cases a <;> cases b <;> simp [nullsLast] at h ⊢
  omega

/-- A sort by several keys is a sort by the first one. -/
theorem pairwise_insertionSort_of {α : Type} {r s : α → α → Prop} [DecidableRel r]
    (htrans : ∀ {x y z}, s x y → s y z → s x z) (h : ∀ x y, r x y → s x y)
    (hnot : ∀ x y, ¬r x y → s y x) (l : List α) : (l.insertionSort r).Pairwise s := by
  have hinsert : ∀ (a : α) (l : List α), l.Pairwise s → (l.orderedInsert r a).Pairwise s := by
    intro a l hl
    induction l with
    | nil => exact List.pairwise_singleton s a
    | cons b l ih =>
      obtain ⟨hb, hl'⟩ := List.pairwise_cons.1 hl
      rw [List.orderedInsert_cons]
      by_cases hab : r a b
      · rw [if_pos hab]
        refine List.pairwise_cons.2 ⟨fun x hx => ?_, hl⟩
        rcases List.mem_cons.1 hx with rfl | hx
        · exact h a x hab
        · exact htrans (h a b hab) (hb x hx)
      · rw [if_neg hab]
        refine List.pairwise_cons.2 ⟨fun x hx => ?_, ih hl'⟩
        rcases List.mem_cons.1 ((List.perm_orderedInsert r a l).mem_iff.1 hx) with rfl | hx
        · exact hnot x b hab
        · exact hb x hx
  induction l with
  | nil => exact List.Pairwise.nil
  | cons a l ih => exact hinsert a _ ih

end Order

section Headcount

variable {t : Tables}

/-- Every class has its level. -/
theorem classLevels_classes (h : t.Ok) : (classLevels t).map Prod.snd = t.classes := by
  have hone : ∀ c ∈ t.classes, ∃ l, t.levels.filter (fun l => l.levelId = c.levelId) = [l] := by
    intro c hc
    obtain ⟨l, hl, hid⟩ := h.placements.class_level.exists_row hc rfl
    have hfound : t.levels.find? (fun l => l.levelId = c.levelId) = some l :=
      h.keys.levels.find?_eq_some.2 ⟨hl, hid⟩
    exact ⟨l, by rw [h.keys.levels.filter_key, hfound]; rfl⟩
  have hall : ∀ cs : List ClassRow, (∀ c ∈ cs, c ∈ t.classes) →
      (cs.flatMap fun c => (t.levels.filter fun l => l.levelId = c.levelId).map fun l => (l, c)).map
        Prod.snd =
        cs := by
    intro cs hcs
    induction cs with
    | nil => rfl
    | cons c cs ih =>
      obtain ⟨l, hl⟩ := hone c (hcs c List.mem_cons_self)
      rw [List.flatMap_cons, List.map_append, ih fun c hc => hcs c (List.mem_cons_of_mem _ hc), hl]
      rfl
  exact hall t.classes fun _ h => h

variable [Collation]

/-- One row for each class. -/
theorem headcount_classes (h : t.Ok) :
    ((enrollmentByClass t).map ClassHeadcount.classId).Perm (t.classes.map ClassRow.id) := by
  unfold enrollmentByClass
  rw [List.map_map]
  show (((classLevels t).insertionSort fun x y => byLevel x y).map fun x => x.2.id).Perm _
  refine ((List.perm_insertionSort (fun x y => byLevel x y = true) (classLevels t)).map fun x =>
    x.2.id).trans ?_
  conv_rhs => rw [← classLevels_classes h, List.map_map]
  exact List.Perm.refl _

/-- By grade, whatever the names. -/
theorem headcount_grades (t : Tables) :
    ∃ rows : List (LevelRow × ClassRow), rows.Perm (classLevels t) ∧
    (rows.Pairwise fun x y => nullsLast x.1.ordinal y.1.ordinal = true) ∧
      enrollmentByClass t = rows.map (headcount t) := by
  refine ⟨(classLevels t).insertionSort fun x y => byLevel x y,
    List.perm_insertionSort _ _, ?_, rfl⟩
  apply pairwise_insertionSort_of
  · intro x y z hxy hyz
    exact nullsLast_trans hxy hyz
  · intro x y h
    by_cases hne : x.1.ordinal ≠ y.1.ordinal
    · simpa [byLevel, hne] using h
    · rw [not_not.1 hne]
      exact nullsLast_refl _
  · intro x y h
    by_cases hne : x.1.ordinal ≠ y.1.ordinal
    · exact nullsLast_of_not (by simpa [byLevel, hne] using h)
    · rw [not_not.1 hne]
      exact nullsLast_refl _

/-- Over all classes, the students that are placed in one. -/
theorem headcount_sum (h : t.Ok) : ((enrollmentByClass t).map ClassHeadcount.studentCount).sum =
    t.students.countP fun s => s.classId.isSome := by
  have hrows : (enrollmentByClass t).map ClassHeadcount.studentCount =
      ((enrollmentByClass t).map ClassHeadcount.classId).map fun id =>
        count StudentRow.classId t.students (some id) := by
    unfold enrollmentByClass
    rw [List.map_map, List.map_map, List.map_map]
    rfl
  have hperm := (headcount_classes h).map fun id => count StudentRow.classId t.students (some id)
  have hids : ((t.classes.map ClassRow.id).map some).Nodup :=
    List.Nodup.map (Option.some_injective Nat) h.keys.classes
  have hsum := sum_count hids StudentRow.classId t.students
  rw [List.map_map, List.map_map] at hsum
  rw [hrows, hperm.sum_eq, List.map_map]
  refine hsum.trans ?_
  rw [List.countP_eq_length_filter]
  refine congrArg List.length (List.filter_congr fun s hs => ?_)
  -- a student's class is there
  cases hclass : s.classId with
  | none => simp
  | some id =>
    have hin : id ∈ t.classes.map ClassRow.id := h.placements.student_class s hs id hclass
    simpa using List.mem_map.1 hin

end Headcount

/-! ## The enrollments of each published trip -/

section Participation

variable {t : Tables}

/-- The event of an enrollment, by its mapping. -/
def eventOf (t : Tables) (n : EnrollmentRow) : Option Nat :=
  (t.eventClasses.find? fun m => m.id = n.eventClassMapId).map EventClassRow.eventId

/-- The enrollments in an event are those whose event it is. -/
theorem enrollmentsIn_perm (h : t.Ok) (eventId : Nat) :
    (enrollmentsIn t eventId).Perm (t.enrollments.filter fun n => eventOf t n = some eventId) := by
  have hnodup : t.enrollments.Nodup := List.Nodup.of_map _ h.keys.enrollments
  have hmaps : (t.eventClasses.filter fun m => m.eventId = eventId).Nodup :=
    (List.Nodup.of_map _ h.keys.eventClasses).filter _
  have hmem : ∀ n, n ∈ enrollmentsIn t eventId ↔
      n ∈ t.enrollments ∧ eventOf t n = some eventId := by
    intro n
    unfold enrollmentsIn eventOf
    simp only [List.mem_flatMap, List.mem_filter, decide_eq_true_eq, Option.map_eq_some_iff]
    constructor
    · rintro ⟨m, ⟨hm, hevent⟩, hn, hid⟩
      exact ⟨hn, m, h.keys.eventClasses.find?_eq_some.2 ⟨hm, hid.symm⟩, hevent⟩
    · rintro ⟨hn, m, hm, hevent⟩
      have hid : m.id = n.eventClassMapId := by simpa using List.find?_some hm
      exact ⟨m, ⟨List.mem_of_find?_eq_some hm, hevent⟩, hn, hid.symm⟩
  refine (List.perm_ext_iff_of_nodup ?_ (hnodup.filter _)).2 fun n => ?_
  · unfold enrollmentsIn
    refine List.nodup_flatMap.2 ⟨fun m _ => hnodup.filter _, ?_⟩
    refine hmaps.imp_of_mem fun {m m'} hm hm' hne => ?_
    refine List.disjoint_left.2 fun n hn hn' => hne ?_
    simp only [List.mem_filter, decide_eq_true_eq] at hm hm' hn hn'
    exact h.keys.eventClasses.eq_of_key_eq hm.1 hm'.1 (hn.2.symm.trans hn'.2)
  · simpa using hmem n

theorem length_enrollmentsIn (h : t.Ok) (eventId : Nat) :
    (enrollmentsIn t eventId).length = count (eventOf t) t.enrollments (some eventId) :=
  (enrollmentsIn_perm h eventId).length_eq

/-- One row for each published event. -/
theorem participation_events (t : Tables) :
    ((eventParticipation t).map Participation.eventId).Perm ((published t).map EventRow.id) := by
  unfold eventParticipation
  rw [List.map_map]
  exact (Paging.newestFirst_perm EventRow.date (published t)).map EventRow.id

/-- Over all published events, the enrollments in one. -/
theorem participation_sum (h : t.Ok) :
    ((eventParticipation t).map Participation.totalEnrollments).sum =
    t.enrollments.countP fun n => (published t).any fun e => eventOf t n = some e.id := by
  have hrows : (eventParticipation t).map Participation.totalEnrollments =
      ((eventParticipation t).map Participation.eventId).map fun id =>
        count (eventOf t) t.enrollments (some id) := by
    unfold eventParticipation
    rw [List.map_map, List.map_map, List.map_map]
    exact List.map_congr_left fun e _ => length_enrollmentsIn h e.id
  have hperm := (participation_events t).map fun id => count (eventOf t) t.enrollments (some id)
  have hids : (((published t).map EventRow.id).map some).Nodup :=
    List.Nodup.map (Option.some_injective Nat) (h.keys.events.filter _)
  have hsum := sum_count hids (eventOf t) t.enrollments
  rw [List.map_map, List.map_map] at hsum
  rw [hrows, hperm.sum_eq, List.map_map]
  refine hsum.trans ?_
  rw [List.countP_eq_length_filter]
  refine congrArg List.length (List.filter_congr fun n _ => ?_)
  have hin : eventOf t n ∈ ((published t).map EventRow.id).map some ↔
      ((published t).any fun e => eventOf t n = some e.id) = true := by
    rw [List.map_map, List.mem_map, List.any_eq_true]
    constructor
    · intro ⟨e, he, hid⟩
      exact ⟨e, he, decide_eq_true hid.symm⟩
    · intro ⟨e, he, hid⟩
      exact ⟨e, he, (of_decide_eq_true hid).symm⟩
  simp only [hin, Bool.decide_eq_true]

/-- Those that are neither confirmed nor rejected are under way. -/
theorem participation_states (t : Tables) (e : EventRow) : (participation t e).totalEnrollments =
    (participation t e).confirmed + (participation t e).rejected +
      (enrollmentsIn t e.id).countP fun n =>
        n.state ∈ [.requestedByStudent, .approvedByParent] := by
  unfold participation
  dsimp only
  induction enrollmentsIn t e.id with
  | nil => rfl
  | cons n ns ih =>
    rw [List.length_cons, ih]
    simp only [List.countP_cons]
    cases n.state <;> simp <;> omega

end Participation

/-! ## The payments of each status -/

section Payments

variable (t : Tables)

theorem nodup_paymentStatuses : (paymentStatuses t).Nodup := List.nodup_dedup _

theorem mem_paymentStatuses {t : Tables} {p : PaymentRow} (hp : p ∈ t.payments) :
    p.status ∈ paymentStatuses t :=
  List.mem_dedup.2 (List.mem_map_of_mem hp)

theorem payments_count : ((paymentTotals t).map PaymentTotal.count).sum = t.payments.length := by
  have hrows : (paymentTotals t).map PaymentTotal.count =
      (paymentStatuses t).map (count PaymentRow.status t.payments) := by
    unfold paymentTotals
    rw [List.map_map]
    rfl
  rw [hrows, sum_count (nodup_paymentStatuses t)]
  refine congrArg List.length (List.filter_eq_self.2 fun p hp => ?_)
  exact decide_eq_true (mem_paymentStatuses hp)

theorem payments_amount :
    ((paymentTotals t).map PaymentTotal.totalAmount).sum =
      (t.payments.map PaymentRow.amount).sum := by
  have hrows : (paymentTotals t).map PaymentTotal.totalAmount =
      (paymentStatuses t).map (total PaymentRow.status PaymentRow.amount t.payments) := by
    unfold paymentTotals
    rw [List.map_map]
    rfl
  have hall : t.payments.filter (fun p => p.status ∈ paymentStatuses t) = t.payments :=
    List.filter_eq_self.2 fun p hp => decide_eq_true (mem_paymentStatuses hp)
  rw [hrows, sum_total (nodup_paymentStatuses t), hall]

end Payments

/-! ## The report -/

/-- The report accounts for the school: each class, published trip and status has one row, the
classes by grade, what is counted adds up to what is there, and an enrollment is confirmed,
rejected or under way. -/
structure Accounts (t : Tables) (report : SchoolReport) : Prop where
  grades : ∃ rows : List (LevelRow × ClassRow), rows.Perm (classLevels t) ∧
    (rows.Pairwise fun x y => nullsLast x.1.ordinal y.1.ordinal = true) ∧
      report.enrollmentByClass = rows.map (headcount t)
  classes : (report.enrollmentByClass.map ClassHeadcount.classId).Perm (t.classes.map ClassRow.id)
  students : (report.enrollmentByClass.map ClassHeadcount.studentCount).sum =
    t.students.countP fun s => s.classId.isSome
  events : (report.eventParticipation.map Participation.eventId).Perm
    ((published t).map EventRow.id)
  enrollments : (report.eventParticipation.map Participation.totalEnrollments).sum =
    t.enrollments.countP fun n => (published t).any fun e => eventOf t n = some e.id
  underWay : ∀ row ∈ report.eventParticipation, row.confirmed + row.rejected ≤ row.totalEnrollments
  statuses : (report.paymentStatus.map PaymentTotal.status).Nodup
  payments : (report.paymentStatus.map PaymentTotal.count).sum = t.payments.length
  amounts : (report.paymentStatus.map PaymentTotal.totalAmount).sum =
    (t.payments.map PaymentRow.amount).sum

/-- **The report accounts for the school**, in every state that the database admits. -/
theorem report_accounts [Collation] (d : Db) :
    ∃ report, getSchoolReport d = .ok report d ∧ Accounts d.val report := by
  refine ⟨_, rfl, ?_⟩
  constructor
  case grades => exact headcount_grades d.val
  case classes => exact headcount_classes d.ok
  case students => exact headcount_sum d.ok
  case events => exact participation_events d.val
  case enrollments => exact participation_sum d.ok
  case underWay =>
    intro row hrow
    obtain ⟨e, -, rfl⟩ := List.mem_map.1 hrow
    have hstates := participation_states d.val e
    omega
  case statuses =>
    show ((paymentTotals d.val).map PaymentTotal.status).Nodup
    unfold paymentTotals
    rw [List.map_map]
    simpa [Function.comp_def] using nodup_paymentStatuses d.val
  case payments => exact payments_count d.val
  case amounts => exact payments_amount d.val

/-! ## The export -/

/-- **The exported file** is read as the header and the rows of the table, whatever the names of
levels and classes. -/
theorem export_read [Collation] (d : Db) (limit : Nat)
    (hlimit : ∀ row ∈ csvHeader :: (enrollmentByClass d.val).map csvRow, ∀ s ∈ row,
      s.length ≤ limit) :
    ∃ text, getSchoolReportCsv d = .ok text d ∧
      Csv.readText Csv.excel limit text = .ok (csvHeader :: (enrollmentByClass d.val).map csvRow) :=
  ⟨_, rfl, Csv.readText_writeText _ hlimit⟩

/-- The name of the class has a comma, quotation marks and a line break. -/
def quotedSchool : Db where
  val := { smallSchool.val with
    classes := [⟨1, "G1, \"north\"\r\nA", 1, none, 25, true, 1, some "A"⟩] }
  ok := by decide +kernel

theorem export_read_quotedSchool : ∃ text,
    @getSchoolReportCsv byCodePoint quotedSchool = .ok text quotedSchool ∧
      Csv.readText Csv.excel 131072 text =
        .ok (csvHeader :: (@enrollmentByClass byCodePoint quotedSchool.val).map csvRow) :=
  @export_read byCodePoint quotedSchool 131072 (by decide +kernel)

end Sams.Reports
