import Sams.Family.Isolation
import Sams.Trips.Priced
import Sams.Trips.Stamps

/-!
# What the rows of the overview tell

The row of an enrollment has the status of its newest payment. Its date and the status of its event
are looked up in the events that the parent sees at that moment, and are missing when no child of
the parent is in a class of the event any more, or the event is not published any more.

* **`factual_iff`** — the rows of a school tell of their own trips just when each enrollment of a
  child is for an event that the parent still sees.
* **`facts_run`** — in every run that starts so, the rows tell of their own trips throughout just
  when every move of a student and every request on an event leaves these events in sight.
  Enrolling, deciding, paying and cancelling always do.
-/

namespace Sams.Family

open School Programs Runs Interleaving Trips Trips.TenantRepository

/-! ## The newest payment -/

section Payments

variable {site : Site} {enrollmentId : Nat}

theorem paymentOf_eq_none : paymentOf site enrollmentId = none ↔
    ∀ p ∈ site.db.val.payments, p.enrollmentId ≠ enrollmentId := by
  unfold paymentOf
  rw [List.head?_eq_none_iff, ← List.length_eq_zero_iff, List.length_insertionSort,
    List.length_eq_zero_iff, List.filter_eq_nil_iff]
  simp

/-- The payment that is shown is one of the enrollment's, and none is newer. -/
theorem paymentOf_newest {p : PaymentRow} (h : paymentOf site enrollmentId = some p) :
    p ∈ site.db.val.payments ∧ p.enrollmentId = enrollmentId ∧
      ∀ q ∈ site.db.val.payments, q.enrollmentId = enrollmentId →
        site.paymentCreatedAt q.id ≤ site.paymentCreatedAt p.id := by
  unfold paymentOf at h
  obtain ⟨rest, hsorted⟩ := List.head?_eq_some_iff.1 h
  have hmem : ∀ q, q ∈ p :: rest ↔ q ∈ site.db.val.payments ∧ q.enrollmentId = enrollmentId := by
    intro q
    rw [← hsorted, List.mem_insertionSort, List.mem_filter, decide_eq_true_eq]
  have hpair := List.pairwise_insertionSort (fun p q : PaymentRow =>
    site.paymentCreatedAt q.id ≤ site.paymentCreatedAt p.id)
    (site.db.val.payments.filter fun p => p.enrollmentId = enrollmentId)
  rw [hsorted] at hpair
  obtain ⟨hp, hid⟩ := (hmem p).1 (by simp)
  refine ⟨hp, hid, fun q hq hqid => ?_⟩
  have hq := (hmem q).2 ⟨hq, hqid⟩
  rcases List.mem_cons.1 hq with rfl | hq
  · exact le_refl _
  · exact List.rel_of_pairwise_cons hpair hq

/-- The status of the payment is always told. -/
theorem tells_payment (site : Site) (events : List Event) (listing : EnrollmentListing) :
    let row := familyEnrollment events (paymentOf site) listing
    (row.paymentStatus = none ∧ ∀ p ∈ site.db.val.payments, p.enrollmentId ≠ row.id) ∨
      ∃ p ∈ site.db.val.payments, p.enrollmentId = row.id ∧ row.paymentStatus = some p.status ∧
        ∀ q ∈ site.db.val.payments, q.enrollmentId = row.id →
          site.paymentCreatedAt q.id ≤ site.paymentCreatedAt p.id := by
  dsimp only [familyEnrollment]
  cases hpayment : paymentOf site listing.row.id with
  | none => exact .inl ⟨rfl, paymentOf_eq_none.1 hpayment⟩
  | some p =>
    obtain ⟨hp, hid, hnewest⟩ := paymentOf_newest hpayment
    exact .inr ⟨p, hp, hid, rfl, hnewest⟩

end Payments

/-! ## The event of a class map -/

section Events

variable {d : Db} {parentId : Nat} {events : List Event}

theorem classMapping_id {t : Tables} {m : EventClassRow} {mapping : ClassMapping}
    (h : classMapping t m = some mapping) : mapping.id = m.id := by
  unfold classMapping at h
  obtain ⟨c, -, h⟩ := Option.bind_eq_some_iff.1 h
  obtain ⟨l, -, h⟩ := Option.bind_eq_some_iff.1 h
  cases h
  rfl

/-- The classes of an event are its class maps. -/
theorem mem_classMappings_id {eventId mapId : Nat} :
    (∃ mapping ∈ classMappings d.val eventId, mapping.id = mapId) ↔
      ∃ m ∈ d.val.eventClasses, m.id = mapId ∧ m.eventId = eventId := by
  unfold classMappings
  constructor
  · intro h
    obtain ⟨mapping, hmapping, hid⟩ := h
    obtain ⟨m, hm, hmapping⟩ := List.mem_filterMap.1 hmapping
    obtain ⟨hm, hevent⟩ := List.mem_filter.1 hm
    exact ⟨m, hm, (classMapping_id hmapping).symm.trans hid, of_decide_eq_true hevent⟩
  · intro h
    obtain ⟨m, hm, hid, hevent⟩ := h
    obtain ⟨mapping, hmapping, -⟩ := classMapping_some hm
    refine ⟨mapping, List.mem_filterMap.2 ⟨m, List.mem_filter.2 ⟨hm, ?_⟩, hmapping⟩, ?_⟩
    · exact decide_eq_true hevent
    · exact (classMapping_id hmapping).trans hid

/-- **The event of a class map** is found when the parent sees it, and nothing else is. -/
theorem mapToEvent_eq (hevents : ∀ x, x ∈ events ↔ ∃ e ∈ d.val.events, SeenBy d parentId e ∧
    x = seen d e)
    {m : EventClassRow} (hm : m ∈ d.val.eventClasses) {e : EventRow} (he : e ∈ d.val.events)
    (hevent : e.id = m.eventId) :
    (SeenBy d parentId e → mapToEvent events m.id = some (seen d e).row) ∧
      (¬SeenBy d parentId e → mapToEvent events m.id = none) := by
  -- a class map of the id belongs to one event only
  have hown : ∀ ev ∈ events, ∀ mapping ∈ ev.classMappings, mapping.id = m.id →
      SeenBy d parentId e ∧ ev = seen d e := by
    intro ev hev mapping hmapping hid
    obtain ⟨e', he', hseen, rfl⟩ := (hevents ev).1 hev
    obtain ⟨m', hm', hid', hevent'⟩ := mem_classMappings_id.1 ⟨mapping, hmapping, hid⟩
    obtain rfl := d.ok.keys.eventClasses.eq_of_key_eq hm' hm hid'
    obtain rfl := d.ok.keys.events.eq_of_key_eq he' he (hevent'.symm.trans hevent.symm)
    exact ⟨hseen, rfl⟩
  unfold mapToEvent
  constructor
  · intro hseen
    have hfound : ((events.flatMap fun ev => ev.classMappings.map fun mapping =>
        (mapping.id, ev.row)).reverse.find? fun p => p.1 = m.id).isSome := by
      obtain ⟨mapping, hmapping, hid⟩ := mem_classMappings_id.2 ⟨m, hm, rfl, hevent.symm⟩
      rw [List.find?_isSome]
      refine ⟨(mapping.id, (seen d e).row), List.mem_reverse.2 (List.mem_flatMap.2 ?_), ?_⟩
      · exact ⟨seen d e, (hevents _).2 ⟨e, he, hseen, rfl⟩, List.mem_map.2 ⟨mapping, hmapping, rfl⟩⟩
      · exact decide_eq_true hid
    obtain ⟨p, hp⟩ := Option.isSome_iff_exists.1 hfound
    have hid := List.find?_some hp
    obtain ⟨ev, hev, hmem⟩ := List.mem_flatMap.1 (List.mem_reverse.1 (List.mem_of_find?_eq_some hp))
    obtain ⟨mapping, hmapping, rfl⟩ := List.mem_map.1 hmem
    rw [hp, Option.map_some, (hown ev hev mapping hmapping (of_decide_eq_true hid)).2]
  · intro hseen
    rw [Option.map_eq_none_iff, List.find?_eq_none]
    intro p hp hid
    obtain ⟨ev, hev, hmem⟩ := List.mem_flatMap.1 (List.mem_reverse.1 hp)
    obtain ⟨mapping, hmapping, rfl⟩ := List.mem_map.1 hmem
    exact hseen (hown ev hev mapping hmapping (of_decide_eq_true hid)).1

/-- The listing of an enrollment whose student is linked to the parent. -/
theorem enrollmentListing_some {d : Db} {n : EnrollmentRow} (hn : n ∈ d.val.enrollments)
    {map : EventClassRow} (hmap : getClassMapById d.val n.eventClassMapId = some map) :
    ∃ listing, enrollmentListing d.val n = some listing ∧ listing.row = n := by
  obtain ⟨s, hs, hstudent⟩ := d.ok.rollovers.enrollment_student.exists_row hn rfl
  have hs : d.val.student? n.studentId = some s := d.ok.keys.students.find?_eq_some.2 ⟨hs, hstudent⟩
  obtain ⟨hmem, -⟩ := d.ok.keys.eventClasses.find?_eq_some.1 hmap
  obtain ⟨c, hc, hclass⟩ := d.ok.rollovers.event_class_class.exists_row hmem rfl
  have hc : d.val.class? map.classId = some c := d.ok.keys.classes.find?_eq_some.2 ⟨hc, hclass⟩
  obtain ⟨e, he, hevent⟩ := d.ok.events.event_class_event.exists_row hmem rfl
  have he : d.val.event? map.eventId = some e := d.ok.keys.events.find?_eq_some.2 ⟨he, hevent⟩
  refine ⟨⟨n, s.name, c.name, e.title, map.ticketPrice⟩, ?_, rfl⟩
  unfold enrollmentListing
  simp [hs, hmap, hc, he]

/-- What a listing is of. -/
theorem mem_enrollmentsForParent {d : Db} {parentId : Nat} {listing : EnrollmentListing}
    (h : listing ∈ enrollmentsForParent d.val parentId) : listing.row ∈ d.val.enrollments ∧
      isStudentLinkedToParent d.val listing.row.studentId parentId = true ∧
      ∃ map e, getClassMapById d.val listing.row.eventClassMapId = some map ∧
        d.val.event? map.eventId = some e := by
  obtain ⟨n, hn, hlisting⟩ := List.mem_filterMap.1 h
  obtain ⟨hn, hlinked⟩ := List.mem_filter.1 hn
  unfold enrollmentListing at hlisting
  obtain ⟨s, -, hlisting⟩ := Option.bind_eq_some_iff.1 hlisting
  obtain ⟨map, hmap, hlisting⟩ := Option.bind_eq_some_iff.1 hlisting
  obtain ⟨c, -, hlisting⟩ := Option.bind_eq_some_iff.1 hlisting
  obtain ⟨e, he, hlisting⟩ := Option.bind_eq_some_iff.1 hlisting
  cases hlisting
  exact ⟨hn, hlinked, map, e, hmap, he⟩

end Events

/-! ## One state -/

section Facts

variable [Unicode] {site : Site} {outage : Outage} {email : String} {m : Authz.Membership}

/-- The row tells the date and the status of the event that the enrollment is for, and the status of
its newest payment if it has one. -/
structure Tells (site : Site) (row : FamilyEnrollment) : Prop where
  event : ∃ map e, getClassMapById site.db.val row.eventClassMapId = some map ∧
    site.db.val.event? map.eventId = some e ∧ row.eventDate = some e.date ∧
      row.eventStatus = some e.status
  payment : (row.paymentStatus = none ∧ ∀ p ∈ site.db.val.payments, p.enrollmentId ≠ row.id) ∨
    ∃ p ∈ site.db.val.payments, p.enrollmentId = row.id ∧ row.paymentStatus = some p.status ∧
      ∀ q ∈ site.db.val.payments, q.enrollmentId = row.id →
        site.paymentCreatedAt q.id ≤ site.paymentCreatedAt p.id

/-- Every row that is returned for the school tells of its own trip. -/
def Factual (site : Site) : Prop :=
  ∀ outage email m s, fetchOneSchool outage site m email = .ok s →
    ∀ row ∈ s.enrollments, Tells site row

/-- The event of every enrollment of a child is one that the parent sees. -/
def InSight (d : Db) : Prop :=
  ∀ email u, userByEmail d.val email = some u → ∀ n ∈ d.val.enrollments,
    isStudentLinkedToParent d.val n.studentId u.id = true →
    ∀ map e, getClassMapById d.val n.eventClassMapId = some map →
      d.val.event? map.eventId = some e → SeenBy d u.id e

/-- **The rows tell of their own trips** just when the parents still see the events. -/
theorem factual_iff (site : Site) : Factual site ↔ InSight site.db := by
  constructor
  · intro h email u hu n hn hlinked map e hmap he
    by_contra hunseen
    obtain ⟨events, hread, hevents⟩ := eventsForParent_eq site.db u.id
    obtain ⟨s, hs, -⟩ := fetchFamily_noOutage site ⟨"", ""⟩ (getLocaleSummary site) u.id
    have hfetch : fetchOneSchool noOutage site ⟨"", ""⟩ email = .ok s := by
      unfold fetchOneSchool
      rw [reading_noOutage, getUserByEmail_of_none rfl, hu]
      exact hs
    obtain ⟨listing, hlisting, hrow⟩ := enrollmentListing_some hn hmap
    obtain ⟨events', hread', hsection⟩ := fetchFamily_ok hs
    obtain rfl := Except.ok.inj (hread.symm.trans hread')
    have hmem : familyEnrollment events (paymentOf site) listing ∈ s.enrollments := by
      rw [hsection]
      exact List.mem_map_of_mem
        (List.mem_filterMap.2 ⟨n, List.mem_filter.2 ⟨hn, hlinked⟩, hlisting⟩)
    obtain ⟨map', e', -, -, hdate, -⟩ := (h noOutage email _ s hfetch _ hmem).event
    obtain ⟨hmapmem, hmapid⟩ := site.db.ok.keys.eventClasses.find?_eq_some.1 hmap
    obtain ⟨hemem, heid⟩ := site.db.ok.keys.events.find?_eq_some.1 he
    have hnone := (mapToEvent_eq hevents hmapmem hemem heid).2 hunseen
    unfold familyEnrollment at hdate
    dsimp only at hdate
    rw [hrow, ← hmapid, hnone] at hdate
    cases hdate
  · intro h outage email m s hfetch row hrow
    rcases fetchOneSchool_cases hfetch with ⟨summary, rfl⟩ | ⟨summary, u, hu, hfamily⟩
    · cases hrow
    · obtain ⟨events, hread, rfl⟩ := fetchFamily_ok hfamily
      obtain ⟨events', hread', hevents⟩ := eventsForParent_eq site.db u.id
      obtain rfl := Except.ok.inj (hread.symm.trans hread')
      obtain ⟨listing, hlisting, rfl⟩ := List.mem_map.1 hrow
      obtain ⟨hn, hlinked, map, e, hmap, he⟩ := mem_enrollmentsForParent hlisting
      refine ⟨⟨map, e, hmap, he, ?_⟩, tells_payment site events listing⟩
      obtain ⟨hmapmem, hmapid⟩ := site.db.ok.keys.eventClasses.find?_eq_some.1 hmap
      obtain ⟨hemem, heid⟩ := site.db.ok.keys.events.find?_eq_some.1 he
      have hfound :=
        (mapToEvent_eq hevents hmapmem hemem heid).1 (h email u hu _ hn hlinked map e hmap he)
      rw [hmapid] at hfound
      unfold familyEnrollment
      dsimp only
      rw [hfound]
      exact ⟨rfl, rfl⟩

end Facts

/-! ## Runs -/

/-- A request around enrollments, a call on the school, moves of students among them, or a
request on an event. -/
inductive FamilyOp where
  | enroll (call : EnrollCall)
  | decide (actor : Actor) (enrollmentId : Nat) (requested : StudentsRouter.StateName)
  | pay (actor : Actor) (enrollmentId : Nat)
  | cancel (actor : Actor) (enrollmentId : Nat)
  | school (op : School.Op)
  | event (r : Trips.Request)

/-- Nothing that a parent's sight hangs on is changed, and there are no
enrollments but those before. -/
structure KeepsSight (d d' : Db) : Prop where
  users : d'.val.users = d.val.users
  students : d'.val.students = d.val.students
  studentParents : d'.val.studentParents = d.val.studentParents
  events : d'.val.events = d.val.events
  eventClasses : d'.val.eventClasses = d.val.eventClasses
  enrollments : ∀ n' ∈ d'.val.enrollments, ∃ n ∈ d.val.enrollments,
    n.studentId = n'.studentId ∧ n.eventClassMapId = n'.eventClassMapId

instance : IsPreorder Db KeepsSight where
  refl _ := ⟨rfl, rfl, rfl, rfl, rfl, fun n hn => ⟨n, hn, rfl, rfl⟩⟩
  trans _ _ _ h h' :=
    { users := h'.users.trans h.users
      students := h'.students.trans h.students
      studentParents := h'.studentParents.trans h.studentParents
      events := h'.events.trans h.events
      eventClasses := h'.eventClasses.trans h.eventClasses
      enrollments := fun n hn => by
        obtain ⟨n', hn', hstudent', hmap'⟩ := h'.enrollments n hn
        obtain ⟨n'', hn'', hstudent, hmap⟩ := h.enrollments n' hn'
        exact ⟨n'', hn'', hstudent.trans hstudent', hmap.trans hmap'⟩ }

theorem keepsSight_of_eq {d d' : Db} (h : d'.val.enrollments = d.val.enrollments)
    (husers : d'.val.users = d.val.users) (hstudents : d'.val.students = d.val.students)
    (hlinks : d'.val.studentParents = d.val.studentParents) (hevents : d'.val.events = d.val.events)
    (hmaps : d'.val.eventClasses = d.val.eventClasses) : KeepsSight d d' :=
  ⟨husers, hstudents, hlinks, hevents, hmaps, fun n hn => ⟨n, h ▸ hn, rfl, rfl⟩⟩

/-- What a parent sees hangs on the children, the events and their classes. -/
theorem seenBy_congr {d d' : Db} {parentId : Nat} {e : EventRow}
    (hstudents : d'.val.students = d.val.students)
    (hlinks : d'.val.studentParents = d.val.studentParents)
    (hmaps : d'.val.eventClasses = d.val.eventClasses) :
    SeenBy d' parentId e ↔ SeenBy d parentId e := by
  unfold SeenBy ForClass linkedStudents
  rw [hstudents, hlinks, hmaps]

/-- The requests around an enrollment that is there. -/
theorem keepsSight_decide (actor : Actor) (i : Nat) (requested : StudentsRouter.StateName) :
    Moves KeepsSight (StudentsRouter.updateEnrollmentApproval actor i requested).seq := by
  refine moves_updateEnrollmentApproval requested fun st t p => ?_
  unfold updateEnrollmentState
  refine moves_exec fun d _ => ⟨rfl, rfl, rfl, rfl, rfl, fun n hn => ?_⟩
  rcases Rows.cases_of_mem_updateWhere hn with ⟨hn, -⟩ | ⟨n₀, hn₀, -, rfl⟩
  · exact ⟨n, hn, rfl, rfl⟩
  · exact ⟨n₀, hn₀, rfl, rfl⟩

theorem keepsSight_pay (actor : Actor) (i : Nat) :
    Moves KeepsSight (EventsRouter.payEnrollment actor i).seq := by
  refine moves_payEnrollment ?_
  unfold setPaid
  exact moves_exec fun _ _ => keepsSight_of_eq rfl rfl rfl rfl rfl rfl

theorem keepsSight_cancel (actor : Actor) (i : Nat) :
    Moves KeepsSight (StudentsRouter.cancelEnrollment actor i).seq := by
  refine moves_cancelEnrollment (fun e u t => ?_) ?_
  · unfold createNotification
    exact moves_exec fun _ _ => keepsSight_of_eq rfl rfl rfl rfl rfl rfl
  · unfold deleteEnrollment
    refine moves_exec fun d _ => ⟨rfl, rfl, rfl, rfl, rfl, fun n hn => ?_⟩
    exact ⟨n, (List.mem_filter.1 hn).1, rfl, rfl⟩

section Runs

variable [Unicode]

theorem InSight.mono {d d' : Db} (h : InSight d) (hkeeps : KeepsSight d d') : InSight d' := by
  intro email u hu n hn hlinked map e hmap he
  obtain ⟨n₀, hn₀, hstudent, hmapId⟩ := hkeeps.enrollments n hn
  unfold userByEmail at hu
  unfold isStudentLinkedToParent at hlinked
  unfold getClassMapById at hmap
  unfold Tables.event? at he
  rw [hkeeps.users] at hu
  rw [hkeeps.studentParents, ← hstudent] at hlinked
  rw [hkeeps.eventClasses, ← hmapId] at hmap
  rw [hkeeps.events] at he
  rw [seenBy_congr hkeeps.students hkeeps.studentParents hkeeps.eventClasses]
  exact h email u hu n₀ hn₀ hlinked map e hmap he

namespace FamilyOp

def onDb (d : Db) : FamilyOp → Db
  | enroll call => after call.program.seq d
  | decide actor i requested =>
    after (StudentsRouter.updateEnrollmentApproval actor i requested).seq d
  | pay actor i => after (EventsRouter.payEnrollment actor i).seq d
  | cancel actor i => after (StudentsRouter.cancelEnrollment actor i).seq d
  | school op => School.step d op
  | event r => after r.program.seq d

def step (site : Site) (op : FamilyOp) : Site :=
  { site with state := Setup.putSchool (op.onDb site.db) site.state }

/-- A call on the school or on an event leaves the events of all enrollments in sight. -/
def LeavesInSight (site : Site) : FamilyOp → Prop
  | school op => InSight (School.step site.db op)
  | event r => InSight (after r.program.seq site.db)
  | _ => True

end FamilyOp

/-- **An enrollment** is for a published event of the class that the student is in. -/
theorem inSight_enroll {d : Db} (h : InSight d) (call : EnrollCall) :
    InSight (after call.program.seq d) := by
  rcases enrollStudent_cases call.by_ call.studentId call.eventClassMapId call.state call.teacherId
    call.parentId d with
    ⟨m, n, -, hseq⟩ | ⟨m, t, p, d₁, haccepts, -, -, hval, hseq⟩ | ⟨-, -, e, hseq⟩
  · rw [show after call.program.seq d = d from after_ok hseq]
    exact h
  · have hafter : after call.program.seq d = d₁ := by
      split_ifs at hseq
      · exact after_error hseq
      · exact after_ok hseq
    rw [hafter]
    intro email u hu n hn hlinked map e hmap he
    have hsame : SeenBy d₁ u.id e ↔ SeenBy d u.id e :=
      seenBy_congr (by rw [hval]; rfl) (by rw [hval]; rfl) (by rw [hval]; rfl)
    rw [hsame]
    rw [hval] at hu hn hlinked hmap he
    rcases List.mem_append.1 hn with hold | hnew
    · exact h email u hu n hold hlinked map e hmap he
    · obtain rfl := List.mem_singleton.1 hnew
      obtain rfl : map = m := Option.some.inj (hmap.symm.trans haccepts.mapping)
      obtain ⟨s, hs, hclass⟩ := haccepts.placed
      obtain ⟨e', he', hpublished⟩ := haccepts.published
      obtain rfl : e = e' := Option.some.inj (he.symm.trans he')
      obtain ⟨hsmem, hsid⟩ := d.ok.keys.students.find?_eq_some.1 hs
      obtain ⟨-, heid⟩ := d.ok.keys.events.find?_eq_some.1 he'
      obtain ⟨hmapmem, -⟩ := d.ok.keys.eventClasses.find?_eq_some.1 haccepts.mapping
      refine ⟨s, List.mem_filter.2 ⟨hsmem, ?_⟩, map.classId, hclass, hpublished, map, hmapmem,
        heid.symm, rfl⟩
      rw [hsid]
      exact hlinked
  · rw [show after call.program.seq d = d from after_error hseq]
    exact h

/-- The tenant's profile has no part in what is seen. -/
theorem inSight_step {site : Site} {op : FamilyOp} :
    InSight (op.step site).db ↔ InSight (op.onDb site.db) :=
  ⟨fun h => h.mono (keepsSight_of_eq rfl rfl rfl rfl rfl rfl),
    fun h => h.mono (keepsSight_of_eq rfl rfl rfl rfl rfl rfl)⟩

/-- **A step** that leaves the events in sight keeps the rows telling. -/
theorem inSight_of_leaves {site : Site} {op : FamilyOp} (h : InSight site.db)
    (hleaves : op.LeavesInSight site) : InSight (op.step site).db := by
  rw [inSight_step]
  cases op with
  | enroll call => exact inSight_enroll h call
  | decide actor i requested => exact h.mono (keepsSight_decide actor i requested site.db)
  | pay actor i => exact h.mono (keepsSight_pay actor i site.db)
  | cancel actor i => exact h.mono (keepsSight_cancel actor i site.db)
  | school op => exact hleaves
  | event r => exact hleaves

theorem leaves_of_inSight {site : Site} {op : FamilyOp} (h : InSight (op.step site).db) :
    op.LeavesInSight site := by
  rw [inSight_step] at h
  cases op with
  | school op => exact h
  | event r => exact h
  | _ => trivial

/-- **The rows tell of their own trips throughout** a run just when the events are in sight at its
start and every step leaves them so. -/
theorem facts_run (site : Site) (ops : List FamilyOp) : Throughout FamilyOp.step Factual site ops ↔
    InSight site.db ∧ EachStep FamilyOp.step (fun site op => op.LeavesInSight site) site ops := by
  induction ops generalizing site with
  | nil =>
    rw [Throughout, factual_iff, EachStep]
    exact (and_true _).symm ▸ Iff.rfl
  | cons op ops ih =>
    rw [Throughout, factual_iff, EachStep, ih]
    constructor
    · intro h
      obtain ⟨hsight, hnext, hrest⟩ := h
      exact ⟨hsight, leaves_of_inSight hnext, hrest⟩
    · intro h
      obtain ⟨hsight, hleaves, hrest⟩ := h
      exact ⟨hsight, inSight_of_leaves hsight hleaves, hrest⟩

end Runs

/-! ## A child who moves -/

section Example

attribute [local instance] ascii

/-- The small school with its event published, another class beside the one that the event is for,
and a parent of the student. Nobody is enrolled. -/
def familySite : Site where
  state :=
    { val :=
        { school := { tripSchool.val with
            users := [⟨1, "s@school", "student", []⟩, ⟨2, "t@school", "teacher", []⟩,
              ⟨4, "p@school", "parent", []⟩]
            parents := [⟨4, "P"⟩]
            studentParents := [{ studentId := 1, parentId := 4 }]
            classes := [⟨1, "G1 - A", 1, none, 25, true, 1, some "A"⟩,
              ⟨2, "G1 - B", 1, none, 25, true, 1, some "B"⟩]
            events := [{ id := 1, title := "Museum", date := 7, createdBy := 2, createdAt := 0,
                         status := .published }]
            enrollments := []
            payments := []
            seq := .startAt 1 }
          profile := some {}, campuses := [], contacts := [], campusSeq := 0, contactSeq := 0 }
      ok := by decide +kernel }
  studentCreatedAt _ := 0
  paymentCreatedAt _ := 0

/-- The student is enrolled, and moves to the other class. -/
def enrollAndMove : List FamilyOp :=
  [.enroll { by_ := teacher, studentId := 1, eventClassMapId := 1, state := .approvedByTeacher
             teacherId := none, parentId := none },
   .school (.reassignStudentClass ["school_admin"] 1 (some 2) none)]

/-- The enrollment of a child who has moved has lost its date. -/
theorem moved_child_untold : ¬Throughout FamilyOp.step Factual familySite enrollAndMove := by
  intro h
  have hsight := (factual_iff _).1 h.last
  have hfound : userByEmail (run FamilyOp.step familySite enrollAndMove).db.val "p@school" =
      some ⟨4, "p@school", "parent", []⟩ := by decide +kernel
  have hn : { id := 1, studentId := 1, eventClassMapId := 1, state := .approvedByTeacher } ∈
      (run FamilyOp.step familySite enrollAndMove).db.val.enrollments := by decide +kernel
  obtain ⟨s, hs, classId, hclass, -, m, hm, -, hid⟩ := hsight "p@school" _ hfound _ hn
    (by decide +kernel) { id := 1, eventId := 1, classId := 1 }
    { id := 1, title := "Museum", date := 7, createdBy := 2, createdAt := 0, status := .published }
    (by decide +kernel) (by decide +kernel)
  have hmoved : ∀ s ∈ linkedStudents (run FamilyOp.step familySite enrollAndMove).db.val 4,
      s.classId = some 2 := by decide +kernel
  have hfirst : ∀ m ∈ (run FamilyOp.step familySite enrollAndMove).db.val.eventClasses,
      m.classId = 1 := by decide +kernel
  rw [hmoved s hs, Option.some.injEq] at hclass
  rw [hfirst m hm, ← hclass] at hid
  cases hid

end Example

end Sams.Family
