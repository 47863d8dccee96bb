import Sams.Trips.Consent
import Sams.Trips.Opening

/-!
# Who opens an enrollment

Who asks for an enrollment is a parent, a teacher or anybody else. A parent is asked for a link to
the student. A teacher decides for a student of any class, and who is neither asks for any student.

**`opened_iff`**: an actor is entitled to the enrollments that they open if and only if, where the
request is taken, an actor who enters as a teacher heads the class of the student, unless the
student is their own record or child, and an actor who is neither parent nor teacher asks for
themselves or their child.
-/

namespace Sams.Trips

open School Programs Rows Interleaving TenantRepository StudentsRouter

variable {actor : Actor} {studentId mapId : Nat} {st : EnrollmentState} {d d' : Db}

/-- The student is a child of the actor. -/
def Linked (actor : Actor) (studentId : Nat) (d : Db) : Prop :=
  ∃ p, actor.id = .number p ∧ isStudentLinkedToParent d.val studentId p = true

/-- The actor is the head teacher of the student's class. -/
def Heads (actor : Actor) (studentId : Nat) (d : Db) : Prop :=
  ∃ t s c, actor.id = .number t ∧ d.val.student? studentId = some s ∧ c ∈ d.val.classes ∧
    s.classId = some c.id ∧ c.headTeacherId = some t

/-- The student is the actor's own record or child. -/
def OwnOrLinked (actor : Actor) (studentId : Nat) (d : Db) : Prop :=
  actor.id = .number studentId ∨ Linked actor studentId d

/-- The actor may open an enrollment at this state. -/
def MayOpen (actor : Actor) (studentId : Nat) (d : Db) (st : EnrollmentState) : Prop :=
  OwnOrLinked actor studentId d ∨ st = .approvedByTeacher ∧ Heads actor studentId d

/-- The request succeeds and leaves a new enrollment at this state. -/
def Opens (actor : Actor) (studentId mapId : Nat) (d : Db) (st : EnrollmentState) : Prop :=
  ∃ details d', (StudentsRouter.enrollStudent actor studentId mapId).seq d = .ok details d' ∧
    ∃ n ∈ d'.val.enrollments, (∀ n₀ ∈ d.val.enrollments, n₀.id ≠ n.id) ∧ n.state = st

/-- The checks of the service are passed, nothing is to be paid, and the next id is free. -/
def Takes (studentId mapId : Nat) (d : Db) : Prop :=
  (∃ m, Accepts studentId mapId d m ∧ m.ticketPrice ≤ 0) ∧
    ∀ n ∈ d.val.enrollments, n.id ≠ d.val.seq.enrollment

/-- The actor enters as a parent of the student. -/
def EntersAsParent (actor : Actor) (studentId : Nat) (d : Db) : Prop :=
  actor.user.hasRole "parent" = true ∧ Linked actor studentId d

/-- The actor enters as a teacher. -/
def EntersAsTeacher (actor : Actor) (studentId : Nat) (d : Db) : Prop :=
  ¬EntersAsParent actor studentId d ∧ actor.user.hasRole "teacher" = true ∧
    ∃ t, actor.id = .number t ∧ ∃ x ∈ d.val.teachers, x.id = t

/-- The actor is neither a parent nor a teacher. -/
def EntersAsOther (actor : Actor) : Prop :=
  ¬actor.user.hasRole "parent" = true ∧ ¬actor.user.hasRole "teacher" = true

/-! ## The entry -/

/-- The parent of a student enters with or without their consent. -/
theorem entry_of_parent (h : EntersAsParent actor studentId d) :
    ∃ e, (entry actor studentId).seq d = .ok e d ∧ e.teacherId = none ∧
      (e.parentId = none ∨ e.parentId = some actor.id) := by
  obtain ⟨hrole, p, hp, hlinked⟩ := h
  unfold entry
  rw [if_pos hrole, Proc.seq_bind, bind_of_ok (ofExcept_eq_ok.2 ⟨column_eq_ok.2 hp, rfl⟩),
    Proc.seq_bind, Proc.seq_look, query_bind, if_pos hlinked, Proc.seq_bind,
      Proc.seq_look, query_bind]
  by_cases hmay : canParentApproveForStudent d.val studentId p = true
  · rw [if_pos hmay]
    exact ⟨_, rfl, rfl, .inr rfl⟩
  · rw [if_neg hmay]
    exact ⟨_, rfl, rfl, .inl rfl⟩

/-- Who is no parent of the student and has the role of a teacher enters as one, or the id is
refused as a parent's. -/
theorem entry_of_teacher (h : ¬EntersAsParent actor studentId d)
    (hteacher : actor.user.hasRole "teacher" = true) :
    (entry actor studentId).seq d =
        .ok { state := .approvedByTeacher, teacherId := some actor.id } d ∨
      (∀ p, actor.id ≠ .number p) ∧ ∃ e, (entry actor studentId).seq d = .error e d := by
  unfold entry
  by_cases hrole : actor.user.hasRole "parent" = true
  · rw [if_pos hrole, Proc.seq_bind]
    cases hid : actor.id with
    | other asInt => exact .inr ⟨fun p hp => by simp at hp, _, rfl⟩
    | number p =>
      have hcolumn : (ofExcept (ParsedId.number p).column).seq d = .ok p d :=
        ofExcept_eq_ok.2 ⟨rfl, rfl⟩
      have hlinked : ¬isStudentLinkedToParent d.val studentId p = true := fun hlinked =>
        h ⟨hrole, p, hid, hlinked⟩
      refine .inl ?_
      rw [bind_of_ok hcolumn, Proc.seq_bind, Proc.seq_look, query_bind,
        if_neg hlinked, if_pos hteacher]
      rfl
  · rw [if_neg hrole, if_pos hteacher]
    exact .inl rfl

/-- A parent who is no teacher has to be linked. -/
theorem entry_refused (h : ¬EntersAsParent actor studentId d)
    (hrole : actor.user.hasRole "parent" = true) (hteacher : ¬actor.user.hasRole "teacher" = true) :
    ∃ e, (entry actor studentId).seq d = .error e d := by
  unfold entry
  rw [if_pos hrole, Proc.seq_bind]
  cases hid : actor.id with
  | other asInt => exact ⟨_, rfl⟩
  | number p =>
    have hcolumn : (ofExcept (ParsedId.number p).column).seq d = .ok p d :=
      ofExcept_eq_ok.2 ⟨rfl, rfl⟩
    have hlinked : ¬isStudentLinkedToParent d.val studentId p = true := fun hlinked =>
      h ⟨hrole, p, hid, hlinked⟩
    rw [bind_of_ok hcolumn, Proc.seq_bind, Proc.seq_look, query_bind,
      if_neg hlinked, if_neg hteacher]
    exact ⟨_, rfl⟩

theorem entry_of_other (h : EntersAsOther actor) :
    (entry actor studentId).seq d = .ok { state := .requestedByStudent } d := by
  unfold entry
  rw [if_neg h.1, if_neg h.2]
  rfl

/-! ## What is opened -/

theorem not_opens_of_error {e : PyError} (h : (entry actor studentId).seq d = .error e d) :
    ¬Opens actor studentId mapId d st := by
  rintro ⟨details, d', hok, -⟩
  unfold StudentsRouter.enrollStudent at hok
  rw [Proc.seq_bind, bind_of_error h] at hok
  cases hok

/-- The answer is made of the enrollment that is there. -/
theorem respond_of_row {n : EnrollmentRow} (hn : n ∈ d.val.enrollments) :
    ∃ details, (do respondEnrollment (← Proc.look fun d : Db => getEnrollmentById d.val n.id) :
      Task EnrollmentDetails).seq d = .ok details d := by
  obtain ⟨m, hm, hid⟩ := d.ok.rollovers.enrollment_event_class.exists_row hn rfl
  have hm : getClassMapById d.val n.eventClassMapId = some m :=
    d.ok.keys.eventClasses.find?_eq_some.2 ⟨hm, hid⟩
  obtain ⟨details, hdetails, -⟩ := details_of_row hn hm
  refine ⟨details, ?_⟩
  rw [Proc.seq_bind, Proc.seq_look, query_bind, hdetails]
  rfl

/-- An answer is made without a write. -/
theorem same_of_responded {id : Nat} {details : EnrollmentDetails}
    (h : (do respondEnrollment (← Proc.look fun d : Db => getEnrollmentById d.val id) :
      Task EnrollmentDetails).seq d = .ok details d') : d = d' := by
  rw [Proc.seq_bind, Proc.seq_look, query_bind] at h
  cases hdetails : getEnrollmentById d.val id with
  | none =>
    rw [hdetails] at h
    cases h
  | some found =>
    rw [hdetails] at h
    exact (pure_eq_ok.1 h).2

/-- What is opened by an actor who enters. -/
theorem opens_of_entry {e : Entry} (he : (entry actor studentId).seq d = .ok e d) :
    Opens actor studentId mapId d st ↔
      Takes studentId mapId d ∧ Enterable e.teacherId e.parentId d ∧ st = e.state := by
  unfold Opens StudentsRouter.enrollStudent
  rw [Proc.seq_bind, bind_of_ok he]
  constructor
  · rintro ⟨details, d', hok, n, hn, hnew, rfl⟩
    have hok := Proc.seq_wrap_eq_ok.1 hok
    rw [Proc.seq_bind] at hok
    obtain ⟨id, d₁, hid, hrespond⟩ := bind_eq_ok.1 hok
    obtain rfl := same_of_responded hrespond
    rcases enrollStudent_cases actor.user studentId mapId e.state e.teacherId e.parentId d with
      ⟨m, found, hfinds, hseq⟩ | ⟨m, t, p, d₂, haccepts, henter, hinsert, hval,
        hseq⟩ | ⟨-, -, e', hseq⟩
    · rw [hseq] at hid
      cases hid
      exact absurd rfl (hnew n hn)
    · rw [hseq] at hid
      by_cases hpays : 0 < m.ticketPrice
      · rw [if_pos hpays] at hid
        cases hid
      · rw [if_neg hpays] at hid
        cases hid
        refine ⟨⟨⟨m, haccepts, not_lt.1 hpays⟩, hinsert.fresh⟩, henter, ?_⟩
        rw [hval] at hn
        rcases List.mem_append.1 hn with hold | hrow
        · exact absurd rfl (hnew n hold)
        · rw [List.mem_singleton.1 hrow]
          rfl
    · rw [hseq] at hid
      cases hid
  · rintro ⟨⟨⟨m, haccepts, hprice⟩, -⟩, ⟨t, p, ht, hp, hinsert⟩, rfl⟩
    obtain ⟨d₁, hval, hseq⟩ := enroll_inserts actor.user e.state haccepts ht hp hinsert
    rw [if_neg (not_lt.2 hprice), ← enrollStudent_of_accepts haccepts] at hseq
    have hrow : newEnrollment studentId mapId e.state t p d.val ∈ d₁.val.enrollments := by
      rw [hval]
      exact List.mem_append_right _ (List.mem_singleton_self _)
    obtain ⟨details, hdetails⟩ := respond_of_row hrow
    refine ⟨details, d₁, Proc.seq_wrap_eq_ok.2 ?_, _, hrow, hinsert.fresh, rfl⟩
    rw [Proc.seq_bind, bind_of_ok hseq]
    exact hdetails

/-- The next id is all that an entry without teacher and parent takes. -/
theorem enterable_of_takes (h : Takes studentId mapId d) : Enterable none none d := by
  have hinsert : Insertable none none d := ⟨h.2, by simp, by simp⟩
  exact ⟨none, none, rfl, rfl, hinsert⟩

/-- A parent of the student is a parent of the school. -/
theorem enterable_of_parent {e : Entry} (h : Takes studentId mapId d)
    (hlinked : Linked actor studentId d) (hteacher : e.teacherId = none)
    (hparent : e.parentId = none ∨ e.parentId = some actor.id) :
    Enterable e.teacherId e.parentId d := by
  rw [hteacher]
  rcases hparent with hnone | hsome
  · rw [hnone]
    exact enterable_of_takes h
  · obtain ⟨p, hp, hlinked⟩ := hlinked
    unfold isStudentLinkedToParent at hlinked
    obtain ⟨link, hlink, hkey⟩ := List.any_eq_true.1 hlinked
    have hkey : link.parentId = p := (of_decide_eq_true hkey).2
    obtain ⟨x, hx, hid⟩ := d.ok.contacts.map_parent.exists_row hlink rfl
    have hinsert : Insertable none (some p) d := by
      refine ⟨h.2, by simp, fun k hk => ?_⟩
      cases hk
      exact ⟨x, hx, hid.trans hkey⟩
    rw [hsome, hp]
    exact ⟨none, some p, rfl, rfl, hinsert⟩

theorem enterable_teacher (h : ∀ n ∈ d.val.enrollments, n.id ≠ d.val.seq.enrollment) :
    Enterable (some actor.id) none d ↔
      ∃ t, actor.id = .number t ∧ ∃ x ∈ d.val.teachers, x.id = t := by
  constructor
  · rintro ⟨t, p, ht, -, hinsert⟩
    cases hid : actor.id with
    | other asInt =>
      rw [hid] at ht
      cases ht
    | number k =>
      rw [hid] at ht
      cases ht
      exact ⟨k, rfl, hinsert.teacher k rfl⟩
  · rintro ⟨t, ht, hteacher⟩
    have hinsert : Insertable (some t) none d := by
      refine ⟨h, fun k hk => ?_, by simp⟩
      cases hk
      exact hteacher
    rw [ht]
    exact ⟨some t, none, rfl, rfl, hinsert⟩

/-- **What an actor opens**, by how they enter. -/
theorem opens_iff : Opens actor studentId mapId d st ↔ Takes studentId mapId d ∧
    (EntersAsParent actor studentId d ∧
      (∃ e, (entry actor studentId).seq d = .ok e d ∧ st = e.state) ∨
      EntersAsTeacher actor studentId d ∧ st = .approvedByTeacher ∨
      EntersAsOther actor ∧ st = .requestedByStudent) := by
  by_cases hparent : EntersAsParent actor studentId d
  · obtain ⟨e, he, hteacher, hp⟩ := entry_of_parent hparent
    rw [opens_of_entry he]
    constructor
    · rintro ⟨htakes, -, rfl⟩
      exact ⟨htakes, .inl ⟨hparent, e, he, rfl⟩⟩
    · rintro ⟨htakes, ⟨-, e', he', rfl⟩ | ⟨hnot, -⟩ | ⟨hnot, -⟩⟩
      · rw [he] at he'
        cases he'
        exact ⟨htakes, enterable_of_parent htakes hparent.2 hteacher hp, rfl⟩
      · exact absurd hparent hnot.1
      · exact absurd hparent.1 hnot.1
  · simp only [hparent, false_and, false_or]
    by_cases hteacher : actor.user.hasRole "teacher" = true
    · have hother : ¬EntersAsOther actor := fun h => h.2 hteacher
      simp only [hother, false_and, or_false]
      rcases entry_of_teacher hparent hteacher with he | ⟨hid, e, he⟩
      · rw [opens_of_entry he]
        constructor
        · rintro ⟨htakes, henter, rfl⟩
          exact ⟨htakes, ⟨hparent, hteacher, (enterable_teacher htakes.2).1 henter⟩, rfl⟩
        · rintro ⟨htakes, henters, rfl⟩
          exact ⟨htakes, (enterable_teacher htakes.2).2 henters.2.2, rfl⟩
      · refine iff_of_false (not_opens_of_error he) ?_
        rintro ⟨-, ⟨-, -, t, ht, -⟩, -⟩
        exact hid t ht
    · have hnot : ¬EntersAsTeacher actor studentId d := fun h => hteacher h.2.1
      simp only [hnot, false_and, false_or]
      by_cases hrole : actor.user.hasRole "parent" = true
      · obtain ⟨e, he⟩ := entry_refused hparent hrole hteacher
        refine iff_of_false (not_opens_of_error he) ?_
        rintro ⟨-, hother, -⟩
        exact hother.1 hrole
      · have hother : EntersAsOther actor := ⟨hrole, hteacher⟩
        rw [opens_of_entry (entry_of_other hother)]
        constructor
        · rintro ⟨htakes, -, rfl⟩
          exact ⟨htakes, hother, rfl⟩
        · rintro ⟨htakes, -, rfl⟩
          exact ⟨htakes, enterable_of_takes htakes, rfl⟩

/-- **An actor is entitled to what they open** if and only if, where the request is taken, a
teacher heads the class of a student who is not their own, and who is neither teacher nor parent
asks for their own. -/
theorem opened_iff (actor : Actor) (studentId mapId : Nat) (d : Db) :
    (∀ st, Opens actor studentId mapId d st → MayOpen actor studentId d st) ↔
      (Takes studentId mapId d →
        (EntersAsTeacher actor studentId d → OwnOrLinked actor studentId d ∨
          Heads actor studentId d) ∧
        (EntersAsOther actor → OwnOrLinked actor studentId d)) := by
  constructor
  · intro h htakes
    refine ⟨fun hteacher => ?_, fun hother => ?_⟩
    · exact (h _ (opens_iff.2 ⟨htakes, .inr (.inl ⟨hteacher, rfl⟩)⟩)).imp_right And.right
    · refine (h _ (opens_iff.2 ⟨htakes, .inr (.inr ⟨hother, rfl⟩)⟩)).resolve_right ?_
      rintro ⟨hstate, -⟩
      cases hstate
  · intro h st hopens
    obtain ⟨htakes, hparent | ⟨hteacher, rfl⟩ | ⟨hother, rfl⟩⟩ := opens_iff.1 hopens
    · exact .inl (.inr hparent.1.2)
    · exact ((h htakes).1 hteacher).imp_right fun hheads => ⟨rfl, hheads⟩
    · exact .inl ((h htakes).2 hother)

/-! ## A teacher of another class -/

/-- The small school with its event published, which costs nothing, and nobody enrolled. The teacher
heads no class. -/
def openTrip : Db where
  val := { tripSchool.val with
    teachers := [⟨2, "T"⟩]
    events := [{ id := 1, title := "Museum", date := 0, createdBy := 2, createdAt := 0,
                 status := .published }]
    enrollments := []
    payments := []
    seq := .startAt 1 }
  ok := by decide +kernel

theorem openTrip_takes : Takes 1 1 openTrip := by
  refine ⟨⟨{ id := 1, eventId := 1, classId := 1 },
    ⟨⟨by decide +kernel, ?_⟩, ?_, by decide +kernel⟩,
    le_refl 0⟩, by decide +kernel⟩
  · exact ⟨{ id := 1, title := "Museum", date := 0, createdBy := 2, createdAt := 0,
             status := .published }, by decide +kernel, rfl⟩
  · exact ⟨⟨1, "S", some 1, none, none, .enrolled, none⟩, by decide +kernel, rfl⟩

/-- A teacher who heads no class decides for a student, whose parents nobody asks. -/
theorem other_teacher_opens : "school_admin" ∉ teacherActor.user.held ∧
    "super_admin" ∉ teacherActor.user.held ∧ Opens teacherActor 1 1 openTrip .approvedByTeacher ∧
    ¬MayOpen teacherActor 1 openTrip .approvedByTeacher := by
  have hunlinked : ∀ p, isStudentLinkedToParent openTrip.val 1 p = false := fun p => rfl
  have hnot : ¬Linked teacherActor 1 openTrip := by
    rintro ⟨p, -, hlinked⟩
    rw [hunlinked p] at hlinked
    cases hlinked
  have henters : EntersAsTeacher teacherActor 1 openTrip :=
    ⟨fun hparent => hnot hparent.2, by decide, 2, rfl, ⟨2, "T"⟩, by decide, rfl⟩
  refine ⟨by decide, by decide, opens_iff.2 ⟨openTrip_takes, .inr (.inl ⟨henters, rfl⟩)⟩, ?_⟩
  rintro ((hown | hlinked) | ⟨-, t, s, c, -, -, hc, -, hhead⟩)
  · cases hown
  · exact hnot hlinked
  · have hnone : ∀ c ∈ openTrip.val.classes, c.headTeacherId = none := by decide
    rw [hnone c hc] at hhead
    cases hhead

end Sams.Trips
