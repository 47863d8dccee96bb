import Sams.School.Payments
import Sams.School.Roster
import Sams.Trips.Approvals

/-!
# Enrolling once

Any number of enrollments, their actions interleaved in any order with each other and with students
who change class. An event may be mapped to several classes, and the database keeps a student to one
enrollment for each mapping, not for each event. An enrollment has read that the student is in
no class of the event when it inserts its row.

**`enrolled_once`**: in every run in which each insertion finds the student enrolled in no
other class of the event, each student has at most one enrollment in an event and each
enrollment at most one payment.
-/

namespace Sams.Trips

open School Programs Rows Runs Interleaving TenantRepository TenantService

/-! ## One enrollment and one payment -/

/-- A student has at most one enrollment in an event, and an enrollment at most one payment. -/
structure EnrolledOnce (d : Db) : Prop where
  enrollment : ∀ studentId eventId,
    (getEnrollmentsForStudentAndEvent d.val studentId eventId).length ≤ 1
  payment : ∀ enrollmentId,
    (d.val.payments.filter fun p => p.enrollmentId = enrollmentId).length ≤ 1

/-- The student is enrolled in no other class of the event than this. -/
def InNoOtherClass (d : Db) (studentId eventClassMapId : Nat) : Prop :=
  ∀ m ∈ getClassMapById d.val eventClassMapId,
    ∀ n ∈ getEnrollmentsForStudentAndEvent d.val studentId m.eventId,
      n.eventClassMapId = eventClassMapId

instance (d : Db) (studentId eventClassMapId : Nat) :
    Decidable (InNoOtherClass d studentId eventClassMapId) := by
  unfold InNoOtherClass
  infer_instance

/-- What the insertion of an enrollment takes for granted. -/
def EntersAlone : Mark → Db → Prop
  | .enroll _ studentId eventClassMapId _, d => InNoOtherClass d studentId eventClassMapId
  | _, _ => True

instance (mark : Mark) (d : Db) : Decidable (EntersAlone mark d) := by
  induction mark using Mark.casesOn <;> unfold EntersAlone <;> infer_instance

/-- Nobody is enrolled twice who was not before. -/
def StaysOnce (d d' : Db) : Prop := EnrolledOnce d → EnrolledOnce d'

theorem staysOnce_refl (d : Db) : StaysOnce d d := id

instance : IsPreorder Db StaysOnce where
  refl := staysOnce_refl
  trans _ _ _ h h' hd := h' (h hd)

theorem staysOnce_of_eq {d d' : Db} (henrollments : d'.val.enrollments = d.val.enrollments)
    (hclasses : d'.val.eventClasses = d.val.eventClasses)
    (hpayments : d'.val.payments = d.val.payments) : StaysOnce d d' := by
  intro hd
  refine ⟨fun studentId eventId => ?_, fun enrollmentId => ?_⟩
  · have hone := hd.enrollment studentId eventId
    unfold getEnrollmentsForStudentAndEvent getClassMapById at hone ⊢
    rw [henrollments, hclasses]
    exact hone
  · rw [hpayments]
    exact hd.payment enrollmentId

/-! ## Inserting -/

section Inserting

variable {studentId mapId : Nat} {st : EnrollmentState}
    {teacherId parentId : Option Nat} {d d' : Db}

/-- The row of a mapping is written, which keeps its student and its mapping. -/
theorem staysOnce_updateState {existingId : Nat}
    (h : d'.val = { d.val with
      enrollments :=
        updateWhere (fun n => n.id = existingId) (fun n => { n with state := st })
          d.val.enrollments }) :
    StaysOnce d d' := by
  intro hd
  refine ⟨fun s e => ?_, fun i => by rw [h]; exact hd.payment i⟩
  have hone := hd.enrollment s e
  unfold getEnrollmentsForStudentAndEvent getClassMapById at hone ⊢
  rw [h]
  dsimp only [updateWhere]
  rw [List.filter_map, List.length_map]
  refine le_of_eq_of_le (congrArg List.length (List.filter_congr fun n _ => ?_)) hone
  dsimp only [Function.comp]
  split_ifs <;> rfl

/-- Nobody who is enrolled in the event is so by another mapping, and nobody by this one. -/
theorem no_enrollment {m : EventClassRow} (halone : InNoOtherClass d studentId mapId)
    (hm : getClassMapById d.val mapId = some m)
    (hnone : ∀ n ∈ d.val.enrollments, ¬(n.studentId = studentId ∧ n.eventClassMapId = mapId)) :
    getEnrollmentsForStudentAndEvent d.val studentId m.eventId = [] := by
  rw [List.eq_nil_iff_forall_not_mem]
  intro n hn
  have hmap := halone m hm n hn
  unfold getEnrollmentsForStudentAndEvent at hn
  obtain ⟨hmem, hcounts⟩ := List.mem_filter.1 hn
  exact hnone n hmem ⟨(of_decide_eq_true hcounts).1, hmap⟩

/-- A row is added, where the student is enrolled in the event no other way. -/
theorem staysOnce_append {n : EnrollmentRow} {seq : Sequences}
    (halone : InNoOtherClass d n.studentId n.eventClassMapId)
    (hnone : ∀ n' ∈ d.val.enrollments,
      ¬(n'.studentId = n.studentId ∧ n'.eventClassMapId = n.eventClassMapId))
    (h : d'.val = { d.val with enrollments := d.val.enrollments ++ [n], seq }) :
    StaysOnce d d' := by
  intro hd
  refine ⟨fun s e => ?_, fun i => by rw [h]; exact hd.payment i⟩
  have hone := hd.enrollment s e
  have hsplit : getEnrollmentsForStudentAndEvent d'.val s e =
      getEnrollmentsForStudentAndEvent d.val s e ++ [n].filter fun n => decide (n.studentId = s ∧
        (getClassMapById d.val n.eventClassMapId).any fun m => m.eventId = e) := by
    unfold getEnrollmentsForStudentAndEvent getClassMapById
    rw [h]
    exact List.filter_append _ _
  rw [hsplit, List.length_append]
  by_cases hcounts : n.studentId = s ∧
      (getClassMapById d.val n.eventClassMapId).any (fun m => decide (m.eventId = e)) = true
  · obtain ⟨rfl, hevent⟩ := hcounts
    cases hm : getClassMapById d.val n.eventClassMapId with
    | none =>
      rw [hm] at hevent
      cases hevent
    | some m =>
      rw [hm] at hevent
      obtain rfl : m.eventId = e := of_decide_eq_true hevent
      rw [no_enrollment halone hm hnone]
      rw [List.length_nil, Nat.zero_add]
      exact List.length_filter_le _ _
  · rw [List.filter_cons_of_neg (by simpa using hcounts)]
    exact hone

theorem createEnrollment_once {id : Nat} (halone : InNoOtherClass d studentId mapId)
    (h : createEnrollment studentId mapId st teacherId parentId d = .ok id d') :
    StaysOnce d d' := by
  unfold createEnrollment at h
  rw [query_bind] at h
  dsimp only at h
  cases hexisting : d.val.enrollments.find? fun n =>
      decide (n.studentId = studentId ∧ n.eventClassMapId = mapId) with
  | some existing =>
    rw [hexisting] at h
    obtain ⟨⟨⟩, t, hupdate, hret⟩ := bind_eq_ok.1 h
    obtain ⟨-, rfl⟩ := pure_eq_ok.1 hret
    exact staysOnce_updateState (exec_eq_ok.1 hupdate)
  | none =>
    rw [hexisting] at h
    dsimp only at h
    rw [query_bind] at h
    obtain ⟨⟨⟩, t, hinsert, hret⟩ := bind_eq_ok.1 h
    obtain ⟨-, rfl⟩ := pure_eq_ok.1 hret
    refine staysOnce_append halone (fun n hn => ?_) (exec_eq_ok.1 hinsert)
    simpa using List.find?_eq_none.1 hexisting n hn

/-- The database refuses a payment that names no currency. -/
theorem createPayment_once (enrollmentId : Nat) (amount : Money) (status : PaymentStatus) :
    Moves StaysOnce (createPayment enrollmentId amount status) := by
  intro d
  unfold createPayment
  refine after_exec_ind (staysOnce_refl d) fun d' hval => ?_
  have hcurrency := d'.ok.checks.payment_currency
  rw [hval] at hcurrency
  have hnone := hcurrency _ (List.mem_append_right _ (List.mem_singleton_self _))
  cases hnone

end Inserting

/-! ## The requests -/

theorem once_createPendingPayment (enrollmentId : Nat) :
    (createPendingPayment enrollmentId).Keeps EntersAlone fun _ => StaysOnce := by
  unfold createPendingPayment
  refine Proc.keeps_bind (Proc.keeps_look staysOnce_refl _) fun details => ?_
  cases details with
  | none => exact Proc.keeps_ret _
  | some details =>
    refine Proc.keeps_ite (fun _ => ?_) fun _ => Proc.keeps_ret _
    exact Proc.keeps_once (createPayment_once _ _ _)

theorem once_enroll (by_ : Authz.CurrentUser) (studentId mapId : Nat) (st : EnrollmentState)
    (teacherId parentId : Option ParsedId) :
    (enroll by_ studentId mapId st teacherId parentId).Keeps EntersAlone fun _ => StaysOnce := by
  unfold enroll
  refine Proc.keeps_bind (keeps_ofExcept _) fun teacherId => ?_
  refine Proc.keeps_bind (keeps_ofExcept _) fun parentId => ?_
  refine Proc.keeps_bind ?_ fun id =>
    Proc.keeps_bind (once_createPendingPayment _) fun _ => Proc.keeps_ret _
  refine Proc.keeps_marked (fun d halone id d' hm => createEnrollment_once halone hm)
    fun d _ e d' hm => ?_
  rw [createEnrollment_error hm]
  exact staysOnce_refl d

theorem once_enrollStudent (by_ : Authz.CurrentUser) (studentId mapId : Nat) (st : EnrollmentState)
    (teacherId parentId : Option ParsedId) :
    (TenantService.enrollStudent by_ studentId mapId st teacherId parentId).Keeps EntersAlone
      fun _ => StaysOnce := by
  unfold TenantService.enrollStudent
  refine Proc.keeps_bind (Proc.keeps_look staysOnce_refl _) fun classMap => ?_
  cases classMap with
  | none => exact Proc.keeps_fail _
  | some classMap =>
    refine Proc.keeps_bind (keeps_getEventById staysOnce_refl _) fun event => ?_
    refine Proc.keeps_bind Proc.keeps_failIf fun _ => ?_
    refine Proc.keeps_bind (Proc.keeps_look staysOnce_refl _) fun student => ?_
    cases student with
    | none => exact Proc.keeps_fail _
    | some student =>
      refine Proc.keeps_bind (Proc.keeps_look staysOnce_refl _) fun existing => ?_
      cases existing.find? fun n => decide (n.eventClassMapId = mapId) with
      | some n => exact Proc.keeps_ret _
      | none =>
        refine Proc.keeps_bind Proc.keeps_failIf fun _ =>
          Proc.keeps_bind Proc.keeps_failIf fun _ => ?_
        exact once_enroll _ _ _ _ _ _

/-! ## Changes of class -/

section Changes

theorem once_stmt {f : Tables → Tables} (henrollments : ∀ t, (f t).enrollments = t.enrollments)
    (hclasses : ∀ t, (f t).eventClasses = t.eventClasses)
    (hpayments : ∀ t, (f t).payments = t.payments) :
    Moves StaysOnce (stmt f) :=
  moves_exec fun d _ => staysOnce_of_eq (henrollments d.val) (hclasses d.val) (hpayments d.val)

theorem once_setStudents (p : StudentRow → Bool) (f : StudentRow → StudentRow) :
    Moves StaysOnce (stmt fun t => t.setStudents p f) :=
  once_stmt (fun _ => rfl) (fun _ => rfl) fun _ => rfl

theorem once_recordClassChange (sid : Nat) (o n c : Option Nat) :
    Moves StaysOnce (recordClassChange sid o n c) := by
  unfold recordClassChange
  exact once_stmt (fun _ => rfl) (fun _ => rfl) fun _ => rfl

/-- A request that gives students another class. -/
inductive ClassChange where
  | place (userId : Nat) (name : String) (classId : Option Nat) (gender birthData : Option String)
      (changedBy : Option Nat)
  | reassign (userRole : List String) (studentId : Nat) (newClassId changedBy : Option Nat)
  | bulkReassign (userRole : List String) (studentIds : List Nat)
      (newClassId changedBy : Option Nat)

/-- Each is one transaction. -/
def ClassChange.program : ClassChange → Prog Unit
  | place i n cl g b c => discard (TenantRepository.createStudent i n cl g b c)
  | reassign u i cl c => discard (School.TenantService.reassignStudentClass u i cl c)
  | bulkReassign u ids cl c => discard (School.TenantService.bulkReassignStudents u ids cl c)

/-- **Students who change class** stay enrolled where they are. -/
theorem ClassChange.once (change : ClassChange) : Moves StaysOnce change.program := by
  cases change with
  | place i n cl g b c =>
    refine moves_map ?_
    unfold TenantRepository.createStudent
    refine moves_bind (moves_transaction (moves_bind (moves_query _) fun existing => ?_)) fun _ =>
      moves_pure _
    refine moves_bind ?_ fun _ => moves_onlyIf fun _ => once_recordClassChange _ _ _ _
    cases existing with
    | none => exact once_stmt (fun _ => rfl) (fun _ => rfl) fun _ => rfl
    | some row => exact once_setStudents _ _
  | reassign u i cl c =>
    refine moves_map (moves_gated ?_)
    unfold TenantRepository.reassignStudentClass
    refine moves_bind (moves_transaction (moves_bind (moves_query _) fun row => ?_)) fun _ =>
      moves_pure _
    cases row with
    | none => exact moves_throw _
    | some row =>
      refine moves_onlyIf fun _ => moves_bind (once_setStudents _ _) fun _ => ?_
      exact once_recordClassChange _ _ _ _
  | bulkReassign u ids cl c =>
    refine moves_map (moves_gated ?_)
    unfold TenantRepository.bulkReassignStudents
    refine moves_ite (moves_pure _) (moves_bind (moves_transaction ?_) fun _ => moves_pure _)
    refine moves_query_bind fun d => moves_bind (moves_onlyIf fun _ => ?_) fun _ => moves_pure _
    refine moves_bind (once_setStudents _ _) fun _ => moves_forM fun s _ => ?_
    exact moves_onlyIf fun _ => once_recordClassChange _ _ _ _

end Changes

/-! ## Runs -/

/-- An enrollment, or a change of class. -/
inductive Enrolling where
  | enroll (by_ : Authz.CurrentUser) (studentId eventClassMapId : Nat) (state : EnrollmentState)
      (teacherId parentId : Option ParsedId)
  | change (change : ClassChange)

/-- The program of a request, its answer dropped. -/
def Enrolling.program : Enrolling → Task Unit
  | enroll by_ studentId mapId state teacherId parentId =>
    (fun _ => ()) <$> TenantService.enrollStudent by_ studentId mapId state teacherId parentId
  | change c => Proc.once c.program

theorem Enrolling.once (r : Enrolling) : r.program.Keeps EntersAlone fun _ => StaysOnce := by
  cases r with
  | enroll by_ studentId mapId state teacherId parentId =>
    exact Proc.keeps_map (once_enrollStudent _ _ _ _ _ _)
  | change c => exact Proc.keeps_once c.once

section Runs

variable {ι : Type} [DecidableEq ι]

/-- Enrollments and changes of class, any number of them, at their start. -/
def enrollingPool (d : Db) (requests : ι → Enrolling) : Pool ι Mark PyError Db Unit :=
  .start d fun i => (requests i).program

/-- **Nobody is enrolled twice** in every run in which each insertion finds the student enrolled in
no other class of the event. -/
theorem enrolled_once {d : Db} (hd : EnrolledOnce d) (requests : ι → Enrolling) {is : List ι}
    (h : EachStep Pool.step (fun P i => P.Undisturbed (fun _ => EntersAlone) i)
      (enrollingPool d requests) is) :
    Throughout Pool.step (fun P => EnrolledOnce P.state) (enrollingPool d requests) is := by
  let I : Pool ι Mark PyError Db Unit → Prop := fun P =>
    P.Keeping (fun _ => EntersAlone) (fun _ _ => StaysOnce) ∧ EnrolledOnce P.state
  have hstart : I (enrollingPool d requests) :=
    ⟨Pool.keeping_start fun i => (requests i).once, hd⟩
  have hstep : ∀ P i, I P → P.Undisturbed (fun _ => EntersAlone) i → I (P.step i) := by
    intro P i hP hi
    obtain ⟨hkeeping, honce⟩ := hP.1.step (fun _ => staysOnce_refl) hi
    exact ⟨hkeeping, honce hP.2⟩
  exact (run_throughout hstep hstart h).mono fun _ hI => hI.2

end Runs

/-! ## Two classes of one event -/

/-- The small school with its event published for two classes, which costs nothing. -/
def twoClassTrip : Db where
  val := { tripSchool.val with
    classes := tripSchool.val.classes ++ [⟨2, "G1 - B", 1, none, 25, true, 1, some "B"⟩]
    events := [{ id := 1, title := "Museum", date := 0, createdBy := 2, createdAt := 0,
                 status := .published }]
    eventClasses :=
      [{ id := 1, eventId := 1, classId := 1 }, { id := 2, eventId := 1, classId := 2 }]
    enrollments := []
    payments := [] }
  ok := by decide +kernel

/-- The student, the same student for the other class, and an administrator who changes
the class. -/
def enrollTwice : Fin 3 → Enrolling
  | 0 => .enroll { teacher with id := "1", role := "student", roles := ["student"] } 1 1
      .requestedByStudent none none
  | 1 => .enroll { teacher with id := "1", role := "student", roles := ["student"] } 1 2
      .requestedByStudent none none
  | 2 => .change (.reassign ["school_admin"] 1 (some 2) none)

theorem twoClassTrip_once : EnrolledOnce twoClassTrip :=
  ⟨fun _ _ => Nat.zero_le _, fun _ => Nat.zero_le _⟩

/-- The student is enrolled before the class changes, and the second enrollment is refused. -/
theorem enrolled_before_change :
    Throughout Pool.step (fun P => EnrolledOnce P.state) (enrollingPool twoClassTrip enrollTwice)
      [0, 0, 0, 0, 0, 0, 0, 2, 1, 1, 1, 1, 1] := by
  have halone : EachStep Pool.step (fun P i => P.Undisturbed (fun _ => EntersAlone) i)
      (enrollingPool twoClassTrip enrollTwice) [0, 0, 0, 0, 0, 0, 0, 2, 1, 1, 1, 1, 1] := by
    decide +kernel
  exact enrolled_once twoClassTrip_once enrollTwice halone

/-- The class changes while the student enrolls, and both enrollments have read
that there is none. -/
theorem enrolled_in_two_classes : EnrolledOnce twoClassTrip ∧
    ¬Throughout Pool.step (fun P => EnrolledOnce P.state) (enrollingPool twoClassTrip enrollTwice)
      [0, 0, 0, 0, 0, 2, 1, 1, 1, 1, 1, 1, 0] := by
  refine ⟨twoClassTrip_once, fun h => ?_⟩
  have hone := h.last.enrollment 1 1
  revert hone
  decide +kernel

end Sams.Trips
