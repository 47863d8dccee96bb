import Sams.Lib.Twins
import Sams.Trips.Publishing
import Sams.Trips.Enrolling

/-!
# What one enrollment enters

A call of `enroll_student` that runs alone is refused by its checks, or finds the enrollment that is
there, or inserts a row. An insertion for a class that pays raises after the row is written: the
database refuses the payment, which names no currency.
-/

namespace Sams.Trips

open School Programs Rows Interleaving TenantRepository

variable {studentId mapId : Nat} {d d' : Db} {m : EventClassRow}

/-- The event of the mapping is published. -/
structure Published (d : Db) (mapId : Nat) (m : EventClassRow) : Prop where
  mapping : getClassMapById d.val mapId = some m
  published : ∃ e, d.val.event? m.eventId = some e ∧ e.status = .published

/-- The checks are passed, and the student is enrolled in no class of the event. -/
structure Accepts (studentId mapId : Nat) (d : Db) (m : EventClassRow) : Prop
    extends Published d mapId m where
  placed : ∃ s, d.val.student? studentId = some s ∧ s.classId = some m.classId
  free : getEnrollmentsForStudentAndEvent d.val studentId m.eventId = []

/-- The student is enrolled by this mapping. -/
structure Finds (studentId mapId : Nat) (d : Db) (m : EventClassRow) (n : EnrollmentRow) : Prop
    extends Published d mapId m where
  mem : n ∈ d.val.enrollments
  student : n.studentId = studentId
  classMap : n.eventClassMapId = mapId

/-- The database takes a new enrollment with this teacher and this parent. -/
structure Insertable (teacherId parentId : Option Nat) (d : Db) : Prop where
  fresh : ∀ n ∈ d.val.enrollments, n.id ≠ d.val.seq.enrollment
  teacher : ∀ t ∈ teacherId, ∃ x ∈ d.val.teachers, x.id = t
  parent : ∀ p ∈ parentId, ∃ x ∈ d.val.parents, x.id = p

/-- The teacher and the parent can be written as they are given. -/
def Enterable (teacherId parentId : Option ParsedId) (d : Db) : Prop :=
  ∃ t p, teacherId.mapM ParsedId.column = .ok t ∧ parentId.mapM ParsedId.column = .ok p ∧
    Insertable t p d

/-- The row that is inserted. -/
def newEnrollment (studentId mapId : Nat) (state : EnrollmentState)
    (teacherId parentId : Option Nat) (t : Tables) : EnrollmentRow :=
  { id := t.seq.enrollment, studentId, eventClassMapId := mapId, state, teacherId, parentId }

/-- The tables with a new enrollment. -/
def inserted (studentId mapId : Nat) (state : EnrollmentState) (teacherId parentId : Option Nat)
    (t : Tables) : Tables :=
  { t with
    enrollments := t.enrollments ++ [newEnrollment studentId mapId state teacherId parentId t]
    seq := { t.seq with enrollment := t.seq.enrollment + 1 } }

/-! ## The checks -/

theorem mem_enrollmentsOf {eventId : Nat} {n : EnrollmentRow} :
    n ∈ getEnrollmentsForStudentAndEvent d.val studentId eventId ↔ n ∈ d.val.enrollments ∧
      n.studentId = studentId ∧ ∃ m, getClassMapById d.val n.eventClassMapId = some m ∧
        m.eventId = eventId := by
  unfold getEnrollmentsForStudentAndEvent
  simp [Option.any_eq_true]

theorem Accepts.not_mem (h : Accepts studentId mapId d m) {n : EnrollmentRow}
    (hn : n ∈ d.val.enrollments) : ¬(n.studentId = studentId ∧ n.eventClassMapId = mapId) := by
  rintro ⟨hstudent, hmap⟩
  have hmem : n ∈ getEnrollmentsForStudentAndEvent d.val studentId m.eventId :=
    mem_enrollmentsOf.2 ⟨hn, hstudent, m, hmap ▸ h.mapping, rfl⟩
  rw [h.free] at hmem
  cases hmem

theorem Accepts.not_finds {n : EnrollmentRow} {m' : EventClassRow}
    (h : Accepts studentId mapId d m) :
    ¬Finds studentId mapId d m' n := fun hfinds =>
  h.not_mem hfinds.mem ⟨hfinds.student, hfinds.classMap⟩

section Service

variable {by_ : Authz.CurrentUser} {st : EnrollmentState} {teacherId parentId : Option ParsedId}

/-- A call by what its checks read. -/
theorem enrollStudent_seq :
    (TenantService.enrollStudent by_ studentId mapId st teacherId parentId).seq d =
    match getClassMapById d.val mapId with
    | none => .error (.valueError "Event class mapping not found") d
    | some m =>
      if ¬(d.val.event? m.eventId).any fun e => e.status = .published then
        .error (.valueError "Enrollment is only allowed for published events") d
      else match d.val.student? studentId with
        | none => .error (.valueError "Student not found") d
        | some s =>
          match (getEnrollmentsForStudentAndEvent d.val studentId m.eventId).find? fun n =>
              n.eventClassMapId = mapId with
          | some n => .ok n.id d
          | none =>
            if getEnrollmentsForStudentAndEvent d.val studentId m.eventId ≠ [] then
              .error (.valueError "Student is already enrolled in this event") d
            else if s.classId ≠ some m.classId then
              .error (.valueError "Student is not in the class mapped to this event") d
            else (TenantService.enroll by_ studentId mapId st teacherId parentId).seq d := by
  unfold TenantService.enrollStudent
  rw [Proc.seq_bind, Proc.seq_look, query_bind]
  cases getClassMapById d.val mapId with
  | none => rfl
  | some m =>
    dsimp only
    rw [Proc.seq_bind, getEventById_seq, query_bind, Proc.seq_bind, Proc.seq_failIf, raiseIf_bind]
    have hany : (((d.val.event? m.eventId).map fun row =>
        (⟨row, classMappings d.val m.eventId⟩ : Event)).any fun e => e.row.status = .published) =
        (d.val.event? m.eventId).any fun e => e.status = .published := by
      cases d.val.event? m.eventId <;> rfl
    rw [hany]
    congr 1
    rw [Proc.seq_bind, Proc.seq_look, query_bind]
    cases d.val.student? studentId with
    | none => rfl
    | some s =>
      dsimp only
      rw [Proc.seq_bind, Proc.seq_look, query_bind]
      cases (getEnrollmentsForStudentAndEvent d.val studentId m.eventId).find? fun n =>
          decide (n.eventClassMapId = mapId) with
      | some n => rfl
      | none =>
        dsimp only
        rw [Proc.seq_bind, Proc.seq_failIf, raiseIf_bind, Proc.seq_bind, Proc.seq_failIf,
          raiseIf_bind]

theorem enrollStudent_of_accepts (h : Accepts studentId mapId d m) :
    (TenantService.enrollStudent by_ studentId mapId st teacherId parentId).seq d =
      (TenantService.enroll by_ studentId mapId st teacherId parentId).seq d := by
  obtain ⟨e, he, hpublished⟩ := h.published
  obtain ⟨s, hs, hclass⟩ := h.placed
  rw [enrollStudent_seq, h.mapping]
  simp [he, hpublished, hs, hclass, h.free]

theorem enrollStudent_of_finds {n : EnrollmentRow} (h : Finds studentId mapId d m n) :
    (TenantService.enrollStudent by_ studentId mapId st teacherId parentId).seq d = .ok n.id d := by
  obtain ⟨e, he, hpublished⟩ := h.published
  obtain ⟨s, hs, hid⟩ := d.ok.rollovers.enrollment_student.exists_row h.mem rfl
  have hstudent : d.val.student? studentId = some s :=
    d.ok.keys.students.find?_eq_some.2 ⟨hs, hid.trans h.student⟩
  have hmem : n ∈ getEnrollmentsForStudentAndEvent d.val studentId m.eventId :=
    mem_enrollmentsOf.2 ⟨h.mem, h.student, m, h.classMap ▸ h.mapping, rfl⟩
  -- the student has one enrollment for the mapping
  have hfind : (getEnrollmentsForStudentAndEvent d.val studentId m.eventId).find? (fun n =>
      decide (n.eventClassMapId = mapId)) = some n := by
    cases hfind : (getEnrollmentsForStudentAndEvent d.val studentId m.eventId).find? fun n =>
        decide (n.eventClassMapId = mapId) with
    | none => exact absurd h.classMap (by simpa using List.find?_eq_none.1 hfind n hmem)
    | some n' =>
      obtain ⟨hmem', hstudent', -⟩ := mem_enrollmentsOf.1 (List.mem_of_find?_eq_some hfind)
      have hmap' : n'.eventClassMapId = mapId := by simpa using List.find?_some hfind
      rw [d.ok.unique.enrollment.eq_of_key_eq hmem' h.mem
        (Prod.ext (hstudent'.trans h.student.symm) (hmap'.trans h.classMap.symm))]
  rw [enrollStudent_seq, h.mapping]
  simp [he, hpublished, hstudent, hfind]

/-- A call that does neither is refused. -/
theorem enrollStudent_refused (haccepts : ∀ m, ¬Accepts studentId mapId d m)
    (hfinds : ∀ m n, ¬Finds studentId mapId d m n) :
    ∃ e, (TenantService.enrollStudent by_ studentId mapId st teacherId parentId).seq d =
      .error e d := by
  rw [enrollStudent_seq]
  cases hm : getClassMapById d.val mapId with
  | none => exact ⟨_, rfl⟩
  | some m =>
    dsimp only
    by_cases hpublished : ((d.val.event? m.eventId).any fun e => decide (e.status = .published)) =
      true
    · rw [if_neg (not_not.2 hpublished)]
      have hpublished : Published d mapId m := by
        refine ⟨hm, ?_⟩
        obtain ⟨e, he, hstatus⟩ := (Option.any_eq_true _ _).1 hpublished
        exact ⟨e, he, by simpa using hstatus⟩
      cases hs : d.val.student? studentId with
      | none => exact ⟨_, rfl⟩
      | some s =>
        dsimp only
        cases hfind : (getEnrollmentsForStudentAndEvent d.val studentId m.eventId).find? fun n =>
            decide (n.eventClassMapId = mapId) with
        | some n =>
          obtain ⟨hmem, hstudent, -⟩ := mem_enrollmentsOf.1 (List.mem_of_find?_eq_some hfind)
          have hmap : n.eventClassMapId = mapId := by simpa using List.find?_some hfind
          exact absurd ⟨hpublished, hmem, hstudent, hmap⟩ (hfinds m n)
        | none =>
          dsimp only
          by_cases hfree : getEnrollmentsForStudentAndEvent d.val studentId m.eventId = []
          · rw [if_neg (not_not.2 hfree)]
            by_cases hclass : s.classId = some m.classId
            · exact absurd ⟨hpublished, ⟨s, hs, hclass⟩, hfree⟩ (haccepts m)
            · rw [if_pos hclass]
              exact ⟨_, rfl⟩
          · rw [if_pos hfree]
            exact ⟨_, rfl⟩
    · rw [if_pos hpublished]
      exact ⟨_, rfl⟩

end Service

/-! ## The insertion -/

section Insertion

variable {st : EnrollmentState} {t p : Option Nat}

/-- A new enrollment breaks no constraint. -/
theorem inserted_ok (h : Accepts studentId mapId d m) (hinsert : Insertable t p d) :
    Tables.Ok (inserted studentId mapId st t p d.val) := by
  obtain ⟨s, hs, -⟩ := h.placed
  obtain ⟨hs, hstudent⟩ := d.ok.keys.students.find?_eq_some.1 hs
  obtain ⟨hm, hmap⟩ := d.ok.keys.eventClasses.find?_eq_some.1 h.mapping
  have hrow : ∀ n ∈ d.val.enrollments, (n.studentId, n.eventClassMapId) ≠ (studentId, mapId) := by
    intro n hn hkey
    exact h.not_mem hn ⟨congrArg Prod.fst hkey, congrArg Prod.snd hkey⟩
  exact
    { d.ok with
      keys := { d.ok.keys with enrollments := d.ok.keys.enrollments.append hinsert.fresh }
      unique := { d.ok.unique with enrollment := d.ok.unique.enrollment.append hrow }
      checks := { d.ok.checks with }
      placements := { d.ok.placements with }
      rollovers :=
        { d.ok.rollovers with
          enrollment_student := d.ok.rollovers.enrollment_student.append fun k hk =>
            List.mem_map.2 ⟨s, hs, hstudent.trans (Option.some.inj hk)⟩
          enrollment_event_class := d.ok.rollovers.enrollment_event_class.append fun k hk =>
            List.mem_map.2 ⟨m, hm, hmap.trans (Option.some.inj hk)⟩ }
      events :=
        { d.ok.events with
          payment_enrollment := d.ok.events.payment_enrollment.mono_right fun _ hk =>
            List.mem_append_left _ hk }
      contacts :=
        { d.ok.contacts with
          enrollment_teacher := d.ok.contacts.enrollment_teacher.append fun k hk =>
            List.mem_map.2 (hinsert.teacher k hk)
          enrollment_parent := d.ok.contacts.enrollment_parent.append fun k hk =>
            List.mem_map.2 (hinsert.parent k hk) } }

/-- What the database takes is insertable. -/
theorem insertable_of_inserted (h : Tables.Ok (inserted studentId mapId st t p d.val)) :
    Insertable t p d where
  fresh := h.keys.enrollments.ne_of_append
  teacher _ hk := h.contacts.enrollment_teacher.exists_row
    (List.mem_append_right _ (List.mem_singleton_self _)) hk
  parent _ hk := h.contacts.enrollment_parent.exists_row
    (List.mem_append_right _ (List.mem_singleton_self _)) hk

/-- The `INSERT` of a student who is not enrolled by the mapping. -/
theorem createEnrollment_seq (h : Accepts studentId mapId d m) :
    createEnrollment studentId mapId st t p d =
      (stmt (inserted studentId mapId st t p) >>= fun _ => pure d.val.seq.enrollment) d := by
  have hnone : (d.val.enrollments.find? fun n =>
      decide (n.studentId = studentId ∧ n.eventClassMapId = mapId)) = none := by
    rw [List.find?_eq_none]
    intro n hn
    simpa using h.not_mem hn
  unfold createEnrollment
  rw [query_bind]
  dsimp only
  rw [hnone]
  rfl

theorem createEnrollment_inserts (st : EnrollmentState) (h : Accepts studentId mapId d m)
    (hinsert : Insertable t p d) :
    ∃ d₁, createEnrollment studentId mapId st t p d = .ok d.val.seq.enrollment d₁ ∧
      d₁.val = inserted studentId mapId st t p d.val := by
  rw [createEnrollment_seq h]
  exact ⟨_, bind_of_ok (exec_of (inserted_ok h hinsert)), rfl⟩

theorem createEnrollment_refused (h : Accepts studentId mapId d m) (hinsert : ¬Insertable t p d) :
    createEnrollment studentId mapId st t p d = .error .databaseError d := by
  rw [createEnrollment_seq h]
  exact bind_of_error (exec_of_not fun hok => hinsert (insertable_of_inserted hok))

end Insertion

/-- An enrollment as it is read, with its student, its class and its event. -/
theorem details_of_row {n : EnrollmentRow} (hn : n ∈ d.val.enrollments)
    (hm : getClassMapById d.val n.eventClassMapId = some m) :
    ∃ details, getEnrollmentById d.val n.id = some details ∧ details.row = n ∧
      details.ticketPrice = m.ticketPrice := by
  have hrow : enrollment? d.val n.id = some n := d.ok.keys.enrollments.find?_eq_some.2 ⟨hn, rfl⟩
  obtain ⟨s, hs, hstudent⟩ := d.ok.rollovers.enrollment_student.exists_row hn rfl
  have hs : d.val.student? n.studentId = some s := d.ok.keys.students.find?_eq_some.2 ⟨hs, hstudent⟩
  obtain ⟨hmem, -⟩ := d.ok.keys.eventClasses.find?_eq_some.1 hm
  obtain ⟨c, hc, hclass⟩ := d.ok.rollovers.event_class_class.exists_row hmem rfl
  have hc : d.val.class? m.classId = some c := d.ok.keys.classes.find?_eq_some.2 ⟨hc, hclass⟩
  obtain ⟨e, he, hevent⟩ := d.ok.events.event_class_event.exists_row hmem rfl
  have he : d.val.event? m.eventId = some e := d.ok.keys.events.find?_eq_some.2 ⟨he, hevent⟩
  refine ⟨⟨n, s.name, c.name, e.title, m.ticketPrice, e.createdBy⟩, ?_, rfl, rfl⟩
  unfold getEnrollmentById
  simp [hrow, hs, hm, hc, he]

/-! ## The call -/

section Call

variable {by_ : Authz.CurrentUser} {st : EnrollmentState} {teacherId parentId : Option ParsedId}

/-- The database refuses a payment that names no currency. -/
theorem createPayment_refused (enrollmentId : Nat) (amount : Money) (status : PaymentStatus) :
    createPayment enrollmentId amount status d = .error .databaseError d := by
  unfold createPayment
  refine exec_of_not fun hok => ?_
  have hcurrency :=
    hok.checks.payment_currency _ (List.mem_append_right _ (List.mem_singleton_self _))
  cases hcurrency

/-- A payment is tried for where there is something to pay. -/
theorem createPendingPayment_seq {n : EnrollmentRow} (hn : n ∈ d.val.enrollments)
    (hm : getClassMapById d.val n.eventClassMapId = some m) :
    (TenantService.createPendingPayment n.id).seq d =
      if 0 < m.ticketPrice then .error .databaseError d else .ok () d := by
  obtain ⟨details, hdetails, -, hprice⟩ := details_of_row hn hm
  unfold TenantService.createPendingPayment
  rw [Proc.seq_bind, Proc.seq_look, query_bind, hdetails]
  dsimp only
  rw [hprice]
  by_cases hpays : 0 < m.ticketPrice
  · rw [if_pos hpays, if_pos hpays, Proc.seq_once]
    exact createPayment_refused _ _ _
  · rw [if_neg hpays, if_neg hpays]
    rfl

/-- A new enrollment stays, and its payment raises where there is something to pay. -/
theorem enroll_inserts (by_ : Authz.CurrentUser) (st : EnrollmentState) {t p : Option Nat}
    (h : Accepts studentId mapId d m)
    (ht : teacherId.mapM ParsedId.column = .ok t) (hp : parentId.mapM ParsedId.column = .ok p)
    (hinsert : Insertable t p d) :
    ∃ d₁, d₁.val = inserted studentId mapId st t p d.val ∧
      (TenantService.enroll by_ studentId mapId st teacherId parentId).seq d =
        if 0 < m.ticketPrice then .error .databaseError d₁ else .ok d.val.seq.enrollment d₁ := by
  obtain ⟨d₁, hd₁, hval⟩ := createEnrollment_inserts st h hinsert
  refine ⟨d₁, hval, ?_⟩
  have hrow : newEnrollment studentId mapId st t p d.val ∈ d₁.val.enrollments := by
    rw [hval]
    exact List.mem_append_right _ (List.mem_singleton_self _)
  have hm : getClassMapById d₁.val mapId = some m := by
    rw [hval]
    exact h.mapping
  have hpayment : (TenantService.createPendingPayment d.val.seq.enrollment).seq d₁ =
      if 0 < m.ticketPrice then .error .databaseError d₁ else .ok () d₁ :=
    createPendingPayment_seq hrow hm
  unfold TenantService.enroll
  rw [Proc.seq_bind, bind_of_ok (ofExcept_eq_ok.2 ⟨ht, rfl⟩), Proc.seq_bind,
    bind_of_ok (ofExcept_eq_ok.2 ⟨hp, rfl⟩), Proc.seq_bind, Proc.seq_marked, bind_of_ok hd₁,
    Proc.seq_bind]
  by_cases hpays : 0 < m.ticketPrice
  · rw [if_pos hpays] at hpayment ⊢
    exact bind_of_error hpayment
  · rw [if_neg hpays] at hpayment ⊢
    exact bind_of_ok hpayment

/-- Without a row to insert nothing is written. -/
theorem enroll_refused (h : Accepts studentId mapId d m)
    (henter : ¬Enterable teacherId parentId d) :
    ∃ e, (TenantService.enroll by_ studentId mapId st teacherId parentId).seq d = .error e d := by
  unfold TenantService.enroll
  rw [Proc.seq_bind]
  cases ht : teacherId.mapM ParsedId.column with
  | error e => exact ⟨e, rfl⟩
  | ok t =>
    rw [bind_of_ok (ofExcept_eq_ok.2 ⟨rfl, rfl⟩), Proc.seq_bind]
    cases hp : parentId.mapM ParsedId.column with
    | error e => exact ⟨e, rfl⟩
    | ok p =>
      rw [bind_of_ok (ofExcept_eq_ok.2 ⟨rfl, rfl⟩), Proc.seq_bind, Proc.seq_marked]
      have hinsert : ¬Insertable t p d := fun hinsert => henter ⟨t, p, ht, hp, hinsert⟩
      exact ⟨_, bind_of_error (createEnrollment_refused h hinsert)⟩

/-- A call finds an enrollment, or inserts one, or is refused. -/
theorem enrollStudent_cases (by_ : Authz.CurrentUser) (studentId mapId : Nat) (st : EnrollmentState)
    (teacherId parentId : Option ParsedId) (d : Db) :
    (∃ m n, Finds studentId mapId d m n ∧
        (TenantService.enrollStudent by_ studentId mapId st teacherId parentId).seq d =
          .ok n.id d) ∨
      (∃ m t p d₁, Accepts studentId mapId d m ∧ Enterable teacherId parentId d ∧ Insertable t p d ∧
        d₁.val = inserted studentId mapId st t p d.val ∧
        (TenantService.enrollStudent by_ studentId mapId st teacherId parentId).seq d =
          if 0 < m.ticketPrice then .error .databaseError d₁ else .ok d.val.seq.enrollment d₁) ∨
      (∀ m n, ¬Finds studentId mapId d m n) ∧
        (∀ m, Accepts studentId mapId d m → ¬Enterable teacherId parentId d) ∧
        ∃ e, (TenantService.enrollStudent by_ studentId mapId st teacherId parentId).seq d =
          .error e d := by
  by_cases haccepts : ∃ m, Accepts studentId mapId d m
  · obtain ⟨m, haccepts⟩ := haccepts
    rw [enrollStudent_of_accepts haccepts]
    by_cases henter : Enterable teacherId parentId d
    · obtain ⟨t, p, ht, hp, hinsert⟩ := henter
      obtain ⟨d₁, hval, hseq⟩ := enroll_inserts by_ st haccepts ht hp hinsert
      exact .inr (.inl ⟨m, t, p, d₁, haccepts, ⟨t, p, ht, hp, hinsert⟩, hinsert, hval, hseq⟩)
    · refine .inr (.inr ⟨fun _ _ => haccepts.not_finds, fun _ _ => henter, ?_⟩)
      exact enroll_refused haccepts henter
  · have hnone : ∀ m, ¬Accepts studentId mapId d m := fun m hm => haccepts ⟨m, hm⟩
    by_cases hfinds : ∃ m n, Finds studentId mapId d m n
    · obtain ⟨m, n, hfinds⟩ := hfinds
      exact .inl ⟨m, n, hfinds, enrollStudent_of_finds hfinds⟩
    · have hfinds : ∀ m n, ¬Finds studentId mapId d m n := fun m n h => hfinds ⟨m, n, h⟩
      exact .inr (.inr ⟨hfinds, fun m hm => absurd hm (hnone m),
        enrollStudent_refused hnone hfinds⟩)

end Call

end Sams.Trips
