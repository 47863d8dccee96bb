import Sams.Trips.Entitled

/-!
# A second request after a rejection

A student is enrolled by a mapping at most once, and a call of `enroll_student` returns the
enrollment that it finds, whatever its state. The `INSERT` whose conflict clause would write the
new state is not reached.

**`rejected_stays`**: no request for a student whose enrollment is rejected opens it again. Each one
that succeeds leaves it rejected and answers with it.
-/

namespace Sams.Trips

open School Programs Rows Interleaving TenantRepository StudentsRouter

variable {actor : Actor} {studentId mapId : Nat} {d d' : Db} {n : EnrollmentRow}

/-- The states that are a dead end. -/
def rejections : List EnrollmentState := [.rejectedByParent, .rejectedByTeacher]

/-- The student's enrollment by the mapping is rejected. -/
structure Rejected (studentId mapId : Nat) (d : Db) (n : EnrollmentRow) : Prop where
  mem : n ∈ d.val.enrollments
  student : n.studentId = studentId
  classMap : n.eventClassMapId = mapId
  state : n.state ∈ rejections

/-- The enrollment is at the state that the endpoint chose for the request. -/
def Reopens (actor : Actor) (studentId mapId : Nat) (d d' : Db) : Prop :=
  ∃ e, (entry actor studentId).seq d = .ok e d ∧
    ∃ n ∈ d'.val.enrollments, n.studentId = studentId ∧ n.eventClassMapId = mapId ∧
      n.state = e.state

/-- An entry writes nothing, and none is a rejection. -/
theorem entry_ok {e : Entry} (h : (entry actor studentId).seq d = .ok e d') :
    d = d' ∧ e.state ∉ rejections := by
  by_cases hparent : EntersAsParent actor studentId d
  · obtain ⟨hrole, p, hp, hlinked⟩ := hparent
    unfold entry at h
    rw [if_pos hrole, Proc.seq_bind, bind_of_ok (ofExcept_eq_ok.2 ⟨column_eq_ok.2 hp, rfl⟩),
      Proc.seq_bind, Proc.seq_look, query_bind, if_pos hlinked, Proc.seq_bind, Proc.seq_look,
      query_bind] at h
    obtain ⟨rfl, rfl⟩ := pure_eq_ok.1 h
    by_cases hmay : canParentApproveForStudent d.val studentId p = true
    · rw [if_pos hmay]
      exact ⟨rfl, show EnrollmentState.approvedByParent ∉ rejections by decide⟩
    · rw [if_neg hmay]
      exact ⟨rfl, by decide⟩
  · by_cases hteacher : actor.user.hasRole "teacher" = true
    · rcases entry_of_teacher hparent hteacher with he | ⟨-, e', he⟩
      · cases he.symm.trans h
        exact ⟨rfl, show EnrollmentState.approvedByTeacher ∉ rejections by decide⟩
      · cases he.symm.trans h
    · by_cases hrole : actor.user.hasRole "parent" = true
      · obtain ⟨e', he⟩ := entry_refused hparent hrole hteacher
        cases he.symm.trans h
      · cases (entry_of_other ⟨hrole, hteacher⟩).symm.trans h
        exact ⟨rfl, by decide⟩

/-- An enrollment that is there is what a request that succeeds answers with, and
nothing is written. -/
theorem answered_with_found (hmem : n ∈ d.val.enrollments) (hstudent : n.studentId = studentId)
    (hmap : n.eventClassMapId = mapId) {details : EnrollmentDetails}
    (h : (StudentsRouter.enrollStudent actor studentId mapId).seq d = .ok details d') :
    d' = d ∧ details.row = n := by
  unfold StudentsRouter.enrollStudent at h
  rw [Proc.seq_bind] at h
  obtain ⟨e, t, he, h⟩ := bind_eq_ok.1 h
  obtain ⟨rfl, -⟩ := entry_ok he
  have h := Proc.seq_wrap_eq_ok.1 h
  rw [Proc.seq_bind] at h
  obtain ⟨id, t, hid, hrespond⟩ := bind_eq_ok.1 h
  rcases enrollStudent_cases actor.user studentId mapId e.state e.teacherId e.parentId d with
    ⟨m, found, hfinds, hseq⟩ | ⟨m, t', p, d₁, haccepts, -⟩ | ⟨-, -, e', hseq⟩
  · -- one enrollment of a student by a mapping
    have hfound : found = n := d.ok.unique.enrollment.eq_of_key_eq hfinds.mem hmem
      (Prod.ext (hfinds.student.trans hstudent.symm) (hfinds.classMap.trans hmap.symm))
    subst hfound
    cases hseq.symm.trans hid
    obtain rfl := same_of_responded hrespond
    obtain ⟨details', hdetails, hrow, -⟩ := details_of_row hmem (hmap ▸ hfinds.mapping)
    rw [Proc.seq_bind, Proc.seq_look, query_bind, hdetails] at hrespond
    obtain ⟨rfl, -⟩ := pure_eq_ok.1 hrespond
    exact ⟨rfl, hrow⟩
  · exact absurd ⟨hstudent, hmap⟩ (haccepts.not_mem hmem)
  · cases hseq.symm.trans hid

/-- **A rejected trip is not requested again**: a request that succeeds does not leave the
enrollment at the state chosen for it, and reports one that is rejected. -/
theorem rejected_stays (hrejected : Rejected studentId mapId d n) {details : EnrollmentDetails}
    (h : (StudentsRouter.enrollStudent actor studentId mapId).seq d = .ok details d') :
    ¬Reopens actor studentId mapId d d' ∧ details.row.state ∈ rejections := by
  obtain ⟨rfl, hrow⟩ := answered_with_found hrejected.mem hrejected.student hrejected.classMap h
  refine ⟨?_, hrow ▸ hrejected.state⟩
  rintro ⟨e, he, n', hmem, hstudent, hmap, hstate⟩
  have hsame : n' = n := d'.ok.unique.enrollment.eq_of_key_eq hmem hrejected.mem
    (Prod.ext (hstudent.trans hrejected.student.symm) (hmap.trans hrejected.classMap.symm))
  subst hsame
  exact (entry_ok he).2 (hstate ▸ hrejected.state)

/-! ## A rejection by the parent -/

/-- The published event of the small school, and the request for it that a parent rejected. -/
def rejectedTrip : Db where
  val := { openTrip.val with
    enrollments := [{ id := 1, studentId := 1, eventClassMapId := 1, state := .rejectedByParent }]
    seq := .startAt 2 }
  ok := by decide +kernel

/-- The teacher asks for the student. -/
theorem rejected_request : ∃ details d',
    (StudentsRouter.enrollStudent teacherActor 1 1).seq rejectedTrip = .ok details d' ∧
      ¬Reopens teacherActor 1 1 rejectedTrip d' := by
  have hreturns : returns (StudentsRouter.enrollStudent teacherActor 1 1).seq
      rejectedTrip = true := by
    decide +kernel
  obtain ⟨details, d', h⟩ := returns_iff.1 hreturns
  have hrejected : Rejected 1 1 rejectedTrip
      { id := 1, studentId := 1, eventClassMapId := 1, state := .rejectedByParent } :=
    ⟨by decide, rfl, rfl, by decide⟩
  exact ⟨details, d', h, (rejected_stays hrejected h).1⟩

/-- The request is answered with the rejected enrollment. -/
theorem rejected_reported : ∃ details d',
    (StudentsRouter.enrollStudent teacherActor 1 1).seq rejectedTrip = .ok details d' ∧
      details.row.state = .rejectedByParent := by
  have hreturns : returns (StudentsRouter.enrollStudent teacherActor 1 1).seq
      rejectedTrip = true := by
    decide +kernel
  obtain ⟨details, d', h⟩ := returns_iff.1 hreturns
  have hmem : { id := 1, studentId := 1, eventClassMapId := 1, state := .rejectedByParent } ∈
      rejectedTrip.val.enrollments := by decide
  obtain ⟨-, hrow⟩ := answered_with_found hmem rfl rfl h
  exact ⟨details, d', h, congrArg EnrollmentRow.state hrow⟩

end Sams.Trips
