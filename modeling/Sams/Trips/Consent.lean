import Sams.Trips.Approvals

/-!
# Whose consent an enrollment records

Any number of requests that enter an enrollment and of decisions on one, by actors with any
roles, their actions interleaved in any order. `parent_id` is written by a parent who may approve
for the student, as they enter the enrollment or decide on it, and the history of a run tells who
has last decided as a parent.

A decision at the teacher stage also writes `parent_id` when its actor happens to have the role of a
parent. **`consent_run`**: in every run in which no such actor decides at the teacher stage and no
enrollment is entered over one that records a parent, a recorded parent is the one who has decided,
and decisions at the teacher stage leave it alone.
-/

namespace Sams.Trips

open School Programs Rows Runs Interleaving TenantRepository

/-! ## The two stages -/

def parentStage : List EnrollmentState := [.approvedByParent, .rejectedByParent]

def teacherStage : List EnrollmentState := [.approvedByTeacher, .rejectedByTeacher]

/-- The mark enters this enrollment, or decides on it, at one of these states. -/
def Mark.Puts (stage : List EnrollmentState) (n : EnrollmentRow) : Mark → Bool
  | .decide enrollmentId _ state => enrollmentId = n.id ∧ state ∈ stage
  | .enroll _ studentId mapId state =>
    studentId = n.studentId ∧ mapId = n.eventClassMapId ∧ state ∈ stage
  | _ => false

/-- The two rows are of one enrollment. -/
structure SameEnrollment (n n' : EnrollmentRow) : Prop where
  id : n.id = n'.id
  student : n.studentId = n'.studentId
  classMap : n.eventClassMapId = n'.eventClassMapId

theorem SameEnrollment.puts {n n' : EnrollmentRow} (h : SameEnrollment n n')
    (stage : List EnrollmentState) (mark : Mark) : mark.Puts stage n = mark.Puts stage n' := by
  cases mark <;> simp only [Mark.Puts, h.id, h.student, h.classMap]

/-! ## What one action does -/

/-- The actor may approve for the student of the enrollment, which records them, and its mark is a
parent's decision. -/
def Consents (actor : Actor) (mark : Option Mark) (d : Db) (n : EnrollmentRow) : Prop :=
  mark.any (·.Puts parentStage n) = true ∧ n.state ≠ .requestedByStudent ∧
    ∃ p, actor.id = .number p ∧ n.parentId = some p ∧
      canParentApproveForStudent d.val n.studentId p = true

/-- The enrollment records who it did before, and the mark is no parent's decision on it. -/
structure CarriedOver (mark : Option Mark) (n n' : EnrollmentRow) : Prop where
  same : SameEnrollment n n'
  parent : n.parentId = n'.parentId
  decided : n'.state = .requestedByStudent → n.state = .requestedByStudent
  unmarked : mark.any (·.Puts parentStage n') = false

/-- The links stay, and so do the enrollments. -/
structure Stays (d d' : Db) : Prop where
  links : d'.val.studentParents = d.val.studentParents
  rows : ∀ n ∈ d.val.enrollments, ∃ n' ∈ d'.val.enrollments, SameEnrollment n n'

/-- One action of the actor. -/
structure Records (actor : Actor) (mark : Option Mark) (d d' : Db) : Prop extends Stays d d' where
  origin : ∀ n' ∈ d'.val.enrollments, (∃ n ∈ d.val.enrollments, CarriedOver mark n n') ∨
    n'.parentId = none ∨ Consents actor mark d' n'
  /-- A decision at the teacher stage neither sets nor changes the parent. -/
  teacher : ∀ n' ∈ d'.val.enrollments, mark.any (·.Puts teacherStage n') = true →
    (∃ n ∈ d.val.enrollments, n.id = n'.id ∧ n.parentId = n'.parentId) ∨
      (∀ n ∈ d.val.enrollments, n.id ≠ n'.id) ∧ n'.parentId = none

/-- What the writes take for granted. A decision at the teacher stage: that its actor is not a
parent of the school who acts with the role of one. An insertion: that it is not over an enrollment
that records a parent. -/
def OneHat (actor : Actor) : Mark → Db → Prop
  | .decide _ _ state, d => state ∈ teacherStage → actor.user.hasRole "parent" = true →
    ∀ x ∈ d.val.parents, actor.id.is x.id = false
  | .enroll _ studentId mapId _, d => ∀ n ∈ d.val.enrollments,
    n.studentId = studentId → n.eventClassMapId = mapId → n.parentId = none
  | _, _ => True

instance (actor : Actor) (mark : Mark) (d : Db) : Decidable (OneHat actor mark d) := by
  induction mark using Mark.casesOn <;> unfold OneHat <;> infer_instance

theorem stays_of_eq {d d' : Db} (hlinks : d'.val.studentParents = d.val.studentParents)
    (hrows : d'.val.enrollments = d.val.enrollments) : Stays d d' :=
  ⟨hlinks, fun n hn => ⟨n, hrows ▸ hn, rfl, rfl, rfl⟩⟩

theorem records_of_eq {actor : Actor} {d d' : Db}
    (hlinks : d'.val.studentParents = d.val.studentParents)
    (hrows : d'.val.enrollments = d.val.enrollments) : Records actor none d d' where
  toStays := stays_of_eq hlinks hrows
  origin n' hn' := .inl ⟨n', hrows ▸ hn', ⟨rfl, rfl, rfl⟩, rfl, id, rfl⟩
  teacher _ _ hmark := by cases hmark

theorem records_refl {actor : Actor} (d : Db) : Records actor none d d := records_of_eq rfl rfl

/-! ## Deciding -/

section Deciding

variable {actor : Actor} {studentId enrollmentId : Nat} {found st : EnrollmentState}

/-- The actor may approve for the student. -/
def MayConsent (actor : Actor) (studentId : Nat) (d : Db) : Prop :=
  ∃ p, actor.id = .number p ∧ canParentApproveForStudent d.val studentId p = true

theorem stable_mayConsent : Proc.Stable Stays (MayConsent actor studentId) := by
  rintro d d' ⟨p, hp, hmay⟩ hstays
  refine ⟨p, hp, ?_⟩
  unfold canParentApproveForStudent at hmay ⊢
  rw [hstays.links]
  exact hmay

/-- The enrollment is of this student. -/
def OfStudent (enrollmentId studentId : Nat) (d : Db) : Prop :=
  ∃ n ∈ d.val.enrollments, n.id = enrollmentId ∧ n.studentId = studentId

theorem stable_ofStudent : Proc.Stable Stays (OfStudent enrollmentId studentId) := by
  rintro d d' ⟨n, hn, hid, hstudent⟩ hstays
  obtain ⟨n', hn', hsame⟩ := hstays.rows n hn
  exact ⟨n', hn', hsame.id.symm.trans hid, hsame.student.symm.trans hstudent⟩

theorem OfStudent.student {d : Db} (h : OfStudent enrollmentId studentId d) {n : EnrollmentRow}
    (hn : n ∈ d.val.enrollments) (hid : n.id = enrollmentId) : n.studentId = studentId := by
  obtain ⟨n₀, hn₀, hid₀, hstudent⟩ := h
  rw [d.ok.keys.enrollments.eq_of_key_eq hn hn₀ (hid.trans hid₀.symm)]
  exact hstudent

/-- The row that the `UPDATE` leaves. -/
theorem updateEnrollmentState_row {teacherId parentId : Option Nat} {d d' : Db} {u : Unit}
    (h : updateEnrollmentState enrollmentId st teacherId parentId d = .ok u d') {n' : EnrollmentRow}
    (hn' : n' ∈ d'.val.enrollments) : ∃ n ∈ d.val.enrollments, SameEnrollment n n' ∧
      (n.id ≠ enrollmentId ∧ n' = n ∨
        n.id = enrollmentId ∧ n'.state = st ∧ n'.parentId = parentId.or n.parentId) := by
  unfold updateEnrollmentState at h
  rw [exec_eq_ok.1 h] at hn'
  rcases cases_of_mem_updateWhere hn' with ⟨hn, hid⟩ | ⟨n, hn, hid, rfl⟩
  · exact ⟨n', hn, ⟨rfl, rfl, rfl⟩, .inl ⟨by simpa using hid, rfl⟩⟩
  · exact ⟨n, hn, ⟨rfl, rfl, rfl⟩, .inr ⟨by simpa using hid, rfl, rfl⟩⟩

theorem updateEnrollmentState_stays {teacherId parentId : Option Nat} {d d' : Db} {u : Unit}
    (h : updateEnrollmentState enrollmentId st teacherId parentId d = .ok u d') : Stays d d' := by
  unfold updateEnrollmentState at h
  have hval := exec_eq_ok.1 h
  refine ⟨by rw [hval], fun n hn => ⟨_, by rw [hval]; exact mem_updateWhere_of_mem hn, ?_⟩⟩
  split_ifs <;> exact ⟨rfl, rfl, rfl⟩

/-- An enrollment that the decision is not on. -/
theorem carriedOver_of_ne {n : EnrollmentRow} (h : n.id ≠ enrollmentId) :
    CarriedOver (some (.decide enrollmentId found st)) n n := by
  refine ⟨⟨rfl, rfl, rfl⟩, rfl, id, ?_⟩
  have h : ¬enrollmentId = n.id := fun he => h he.symm
  simp [Mark.Puts, h]

/-- A parent who may approve decides, and is recorded. -/
theorem records_parent {p : Nat} {d d' : Db} {u : Unit} (hactor : actor.id = .number p)
    (hst : st ∈ parentStage) (hmay : canParentApproveForStudent d.val studentId p = true)
    (hof : OfStudent enrollmentId studentId d)
    (h : updateEnrollmentState enrollmentId st none (some p) d = .ok u d') :
    Records actor (some (.decide enrollmentId found st)) d d' := by
  have hstays := updateEnrollmentState_stays h
  refine ⟨hstays, fun n' hn' => ?_, fun n' _ hmark => ?_⟩
  · obtain ⟨n, hn, hsame, ⟨hne, rfl⟩ | ⟨hid, hstate, hparent⟩⟩ := updateEnrollmentState_row h hn'
    · exact .inl ⟨n', hn, carriedOver_of_ne hne⟩
    · refine .inr (.inr ⟨?_, ?_, p, hactor, hparent, ?_⟩)
      · simp [Mark.Puts, ← hsame.id, hid, hst]
      · rw [hstate]
        rintro rfl
        exact absurd hst (by decide)
      · have hstudent : n'.studentId = studentId := hsame.student ▸ hof.student hn hid
        unfold canParentApproveForStudent at hmay ⊢
        rw [hstays.links, hstudent]
        exact hmay
  · -- no state is of both stages
    have hboth : st ∈ teacherStage := by
      simp only [Option.any_some, Mark.Puts, decide_eq_true_eq] at hmark
      exact hmark.2
    simp only [parentStage, teacherStage, List.mem_cons, List.not_mem_nil, or_false] at hst hboth
    rcases hst with rfl | rfl <;> simp at hboth

/-- A teacher decides, and the recorded parent stays. -/
theorem records_teacher {teacherId parentId : Option Nat} {d d' : Db} {u : Unit}
    (hst : st ∈ teacherStage)
    (hparent : ∀ p ∈ parentId, ∀ x ∈ d.val.parents, x.id ≠ p)
    (h : updateEnrollmentState enrollmentId st teacherId parentId d = .ok u d') :
    Records actor (some (.decide enrollmentId found st)) d d' := by
  have hkept : ∀ n' ∈ d'.val.enrollments, ∃ n ∈ d.val.enrollments, SameEnrollment n n' ∧
      n.parentId = n'.parentId ∧
        (n'.state = .requestedByStudent → n.state = .requestedByStudent) := by
    intro n' hn'
    obtain ⟨n, hn, hsame, ⟨hne, rfl⟩ | ⟨hid, hstate, hor⟩⟩ := updateEnrollmentState_row h hn'
    · exact ⟨n', hn, hsame, rfl, id⟩
    · refine ⟨n, hn, hsame, ?_, fun hrequested => ?_⟩
      · cases parentId with
        | none => simpa using hor.symm
        | some p =>
          -- the database refuses a parent that it does not know
          have hparents : d'.val.parents = d.val.parents := by
            unfold updateEnrollmentState at h
            rw [exec_eq_ok.1 h]
          obtain ⟨x, hx, hxid⟩ := d'.ok.contacts.enrollment_parent.exists_row hn' hor
          exact absurd hxid (hparent p rfl x (hparents ▸ hx))
      · rw [hstate] at hrequested
        subst hrequested
        exact absurd hst (by decide)
  refine ⟨updateEnrollmentState_stays h, fun n' hn' => .inl ?_, fun n' hn' _ => .inl ?_⟩
  · obtain ⟨n, hn, hsame, hparent, hrequested⟩ := hkept n' hn'
    refine ⟨n, hn, hsame, hparent, hrequested, ?_⟩
    have hstage : st ∉ parentStage := by
      simp only [teacherStage, List.mem_cons, List.not_mem_nil, or_false] at hst
      rcases hst with rfl | rfl <;> decide
    simp [Mark.Puts, hstage]
  · obtain ⟨n, hn, hsame, hparent, -⟩ := hkept n' hn'
    exact ⟨n, hn, hsame.id, hparent⟩

/-- What the route knows of the actor as a parent. -/
def Knows (actor : Actor) (studentId : Nat) (parent : StudentsRouter.Parenthood) (d : Db) : Prop :=
  (parent.mayApprove = true → parent.parentId = some actor.id ∧ MayConsent actor studentId d) ∧
    (parent.parentId = none ∨ parent.parentId = some actor.id ∧ actor.user.hasRole "parent" = true)

variable {H : Mark → Db → Prop}

/-- Whether the actor may approve is read. -/
theorem valid_lookConsent {p : Nat} (hactor : actor.id = .number p) {A : Db → Prop} :
    (Proc.look fun d => canParentApproveForStudent d.val studentId p : Task Bool).Valid H Stays
      (Records actor) (fun mayApprove d => mayApprove = true → MayConsent actor studentId d) A := by
  refine Proc.valid_act (fun d _ _ b d' hm => ?_) (fun d _ _ e d' hm => by cases hm)
    fun b d d' hd h hb =>
    stable_mayConsent d d' (hd hb) h
  obtain ⟨rfl, rfl⟩ := query_eq_ok.1 hm
  exact ⟨records_refl d, fun hmay => ⟨p, hactor, hmay⟩⟩

theorem valid_parenthood (actor : Actor) (studentId : Nat) {A : Db → Prop} :
    (StudentsRouter.parenthood actor studentId).Valid H Stays (Records actor)
      (Knows actor studentId) A := by
  unfold StudentsRouter.parenthood
  refine Proc.valid_ite (fun hparent => ?_) fun _ => Proc.valid_ret fun _ _ => ⟨by simp, .inl rfl⟩
  cases hid : actor.id with
  | other asInt => exact Proc.valid_fail _
  | number p =>
    show (Proc.look _ >>= _ : Task StudentsRouter.Parenthood).Valid _ _ _ _ _
    refine Proc.valid_bind (valid_lookConsent hid) fun mayApprove =>
      Proc.valid_ite (fun hmay => ?_) fun hnot => ?_
    · refine Proc.valid_ret fun d hd => ⟨fun _ => ⟨?_, hd hmay⟩, .inr ⟨?_, hparent⟩⟩ <;> rw [hid]
    · refine Proc.Keeps.bind (Proc.keeps_look records_refl _) fun linked =>
        Proc.valid_ret fun d _ => ?_
      exact ⟨by simp, .inr ⟨by rw [hid], hparent⟩⟩

theorem parentDecision_stage {requested : StudentsRouter.StateName}
    (h : StudentsRouter.parentDecision found requested = .ok st) : st ∈ parentStage := by
  unfold StudentsRouter.parentDecision at h
  split_ifs at h
  cases hname : requested.oneOf .approvedByParent .rejectedByParent with
  | none =>
    rw [hname] at h
    cases h
  | some s =>
    rw [hname] at h
    cases h
    rcases oneOf_eq_some hname with rfl | rfl <;> decide

theorem teacherDecision_stage {details : EnrollmentDetails} {requested : StudentsRouter.StateName}
    (h : StudentsRouter.teacherDecision actor details requested = .ok st) : st ∈ teacherStage := by
  unfold StudentsRouter.teacherDecision at h
  split_ifs at h
  cases hname : requested.oneOf .approvedByTeacher .rejectedByTeacher with
  | none =>
    rw [hname] at h
    cases h
  | some s =>
    rw [hname] at h
    cases h
    rcases oneOf_eq_some hname with rfl | rfl <;> decide

/-- A parent who may approve decides at the parent stage, and anybody else at the teacher stage. -/
theorem stage_of_decision {parent : StudentsRouter.Parenthood} {details : EnrollmentDetails}
    {requested : StudentsRouter.StateName} {teacherId : Option ParsedId}
    (h : StudentsRouter.decision actor parent details requested = .ok (st, teacherId)) :
    parent.mayApprove = true ∧ st ∈ parentStage ∧ teacherId = none ∨
      parent.mayApprove = false ∧ st ∈ teacherStage := by
  unfold StudentsRouter.decision at h
  split_ifs at h with hmay hteacher
  · cases hdecision : StudentsRouter.parentDecision details.row.state requested with
    | error e =>
      rw [hdecision] at h
      cases h
    | ok s =>
      rw [hdecision] at h
      cases h
      exact .inl ⟨hmay, parentDecision_stage hdecision, rfl⟩
  · cases hdecision : StudentsRouter.teacherDecision actor details requested with
    | error e =>
      rw [hdecision] at h
      cases h
    | ok s =>
      rw [hdecision] at h
      cases h
      exact .inr ⟨by simpa using hmay, teacherDecision_stage hdecision⟩

theorem stays_of_records {mark : Option Mark} {d d' : Db} (h : Records actor mark d d') :
    Stays d d' :=
  h.toStays

/-- The decision is written. -/
theorem valid_write {parent : StudentsRouter.Parenthood} {details : EnrollmentDetails}
    {requested : StudentsRouter.StateName} {teacherId : Option ParsedId}
    {teacherCol parentCol : Option Nat}
    (hdecision : StudentsRouter.decision actor parent details requested = .ok (st, teacherId))
    (hteacher : teacherId.mapM ParsedId.column = .ok teacherCol)
    (hparent : parent.parentId.mapM ParsedId.column = .ok parentCol) :
    (Proc.marked (.decide enrollmentId found st)
      (updateEnrollmentState enrollmentId st teacherCol parentCol) : Task Unit).Valid (OneHat actor)
      Stays (Records actor) (fun _ _ => True)
      fun d => Knows actor studentId parent d ∧ OfStudent enrollmentId studentId d := by
  refine Proc.valid_marked (fun d hd honehat u d' hm => ⟨?_, trivial⟩)
    (fun d _ _ e d' hm => ?_) fun _ =>
    Proc.stable_true _
  · obtain ⟨hmay, hst, rfl⟩ | ⟨hnot, hst⟩ := stage_of_decision hdecision
    · obtain ⟨hid, p, hactor, happrove⟩ := hd.1.1 hmay
      rw [hid, hactor] at hparent
      cases hteacher
      cases hparent
      exact records_parent hactor hst happrove hd.2 hm
    · refine records_teacher hst (fun p hp x hx => ?_) hm
      rcases hd.1.2 with hnone | ⟨hid, hrole⟩
      · rw [hnone] at hparent
        cases hparent
        cases hp
      · have hother := honehat hst hrole x hx
        rw [hid] at hparent
        cases hactor : actor.id with
        | other asInt =>
          rw [hactor] at hparent
          cases hparent
        | number n =>
          rw [hactor] at hparent hother
          cases hparent
          obtain rfl : n = p := by simpa using hp
          intro heq
          simp [ParsedId.is, heq] at hother
  · unfold updateEnrollmentState at hm
    rw [exec_eq_error hm]
    exact records_refl d

/-- The details that are read are of the student of the enrollment. -/
theorem ofStudent_of_details {d : Db} {details : EnrollmentDetails}
    (h : getEnrollmentById d.val enrollmentId = some details) :
    OfStudent enrollmentId details.row.studentId d := by
  unfold getEnrollmentById enrollment? at h
  obtain ⟨row, hrow, h⟩ := Option.bind_eq_some_iff.1 h
  obtain ⟨_, _, h⟩ := Option.bind_eq_some_iff.1 h
  obtain ⟨_, _, h⟩ := Option.bind_eq_some_iff.1 h
  obtain ⟨_, _, h⟩ := Option.bind_eq_some_iff.1 h
  obtain ⟨_, _, h⟩ := Option.bind_eq_some_iff.1 h
  obtain rfl := Option.some.inj h
  exact ⟨row, List.mem_of_find?_eq_some hrow, by simpa using List.find?_some hrow, rfl⟩

theorem valid_updateEnrollmentApproval (actor : Actor) (enrollmentId : Nat)
    (requested : StudentsRouter.StateName) :
    (StudentsRouter.updateEnrollmentApproval actor enrollmentId requested).Valid
      (OneHat actor) Stays
      (Records actor) (fun _ _ => True) fun _ => True := by
  unfold StudentsRouter.updateEnrollmentApproval
  let M : Option EnrollmentDetails → Db → Prop := fun details d =>
    ∀ x ∈ details, OfStudent enrollmentId x.row.studentId d
  have hlook : (Proc.look fun d => getEnrollmentById d.val enrollmentId :
      Task (Option EnrollmentDetails)).Valid (OneHat actor) Stays (Records actor) M fun _ =>
        True := by
    refine Proc.valid_act (fun d _ _ b d' hm => ?_) (fun d _ _ e d' hm => by cases hm)
      fun details => ?_
    · obtain ⟨rfl, rfl⟩ := query_eq_ok.1 hm
      exact ⟨records_refl d, fun x hx => ofStudent_of_details hx⟩
    · exact fun d d' hd h x hx => stable_ofStudent d d' (hd x hx) h
  refine Proc.valid_bind hlook fun details => ?_
  cases details with
  | none => exact Proc.valid_fail _
  | some details =>
    have hknows : (StudentsRouter.parenthood actor details.row.studentId).Valid (OneHat actor) Stays
        (Records actor) (fun parent d => Knows actor details.row.studentId parent d ∧
          OfStudent enrollmentId details.row.studentId d)
        fun d => True ∧ OfStudent enrollmentId details.row.studentId d :=
      (valid_parenthood actor _).frame (fun _ _ _ => stays_of_records) stable_ofStudent
    refine Proc.valid_bind (hknows.mono fun d hd => ⟨trivial, hd details rfl⟩) fun parent => ?_
    refine valid_ofExcept_bind fun ⟨st, teacherId⟩ hdecision => ?_
    refine valid_ofExcept_bind fun teacherCol hteacher => ?_
    refine valid_ofExcept_bind fun parentCol hparent => ?_
    refine Proc.valid_bind (valid_write hdecision hteacher hparent) fun _ => ?_
    refine Proc.Keeps.bind (Proc.keeps_look records_refl _) fun answer => ?_
    cases answer with
    | none => exact Proc.valid_fail _
    | some answer => exact Proc.valid_ret fun _ _ => trivial

end Deciding

/-! ## Entering -/

section Entering

variable {actor : Actor} {studentId mapId : Nat} {st : EnrollmentState} {d d' : Db}

/-- What an actor enters an enrollment with: the parent who may approve, with an
approved enrollment. -/
def EntersWith (actor : Actor) (studentId : Nat) (st : EnrollmentState) (parentId : Option ParsedId)
    (d : Db) : Prop :=
  parentId = none ∨ parentId = some actor.id ∧ st = .approvedByParent ∧ MayConsent actor studentId d

theorem stable_entersWith {parentId : Option ParsedId} :
    Proc.Stable Stays (EntersWith actor studentId st parentId) := by
  rintro d d' (h | ⟨hid, hst, hmay⟩) hstays
  · exact .inl h
  · exact .inr ⟨hid, hst, stable_mayConsent d d' hmay hstays⟩

/-- The row of a mapping is written, which records no parent. -/
theorem records_updateState {existingId : Nat} {user : Authz.CurrentUser}
    (hnone : ∀ n ∈ d.val.enrollments, n.id = existingId → n.parentId = none)
    (honly : ∀ n ∈ d.val.enrollments, n.studentId = studentId → n.eventClassMapId = mapId →
      n.id = existingId)
    (h : d'.val = { d.val with
      enrollments :=
        updateWhere (fun n => n.id = existingId) (fun n => { n with state := st })
          d.val.enrollments }) :
    Records actor (some (.enroll user studentId mapId st)) d d' := by
  have hrows : ∀ n' ∈ d'.val.enrollments, ∃ n ∈ d.val.enrollments, SameEnrollment n n' ∧
      n.parentId = n'.parentId ∧ (n.id ≠ existingId ∧ n' = n ∨ n'.parentId = none) := by
    intro n' hn'
    rw [h] at hn'
    rcases cases_of_mem_updateWhere hn' with ⟨hn, hid⟩ | ⟨n, hn, hid, rfl⟩
    · exact ⟨n', hn, ⟨rfl, rfl, rfl⟩, rfl, .inl ⟨by simpa using hid, rfl⟩⟩
    · exact ⟨n, hn, ⟨rfl, rfl, rfl⟩, rfl, .inr (hnone n hn (by simpa using hid))⟩
  refine ⟨⟨by rw [h], fun n hn => ⟨_, by rw [h]; exact mem_updateWhere_of_mem hn, ?_⟩⟩,
    fun n' hn' => ?_, fun n' hn' _ => .inl ?_⟩
  · split_ifs <;> exact ⟨rfl, rfl, rfl⟩
  · obtain ⟨n, hn, hsame, hparent, ⟨hne, rfl⟩ | hnone⟩ := hrows n' hn'
    · refine .inl ⟨n', hn, ⟨rfl, rfl, rfl⟩, rfl, id, ?_⟩
      have hother : ¬(studentId = n'.studentId ∧ mapId = n'.eventClassMapId ∧ st ∈ parentStage) :=
        fun hboth => hne (honly n' hn hboth.1.symm hboth.2.1.symm)
      exact decide_eq_false hother
    · exact .inr (.inl hnone)
  · obtain ⟨n, hn, hsame, hparent, -⟩ := hrows n' hn'
    exact ⟨n, hn, hsame.id, hparent⟩

/-- A row is added, which records the parent who enters it, if it does one. -/
theorem records_append {n : EnrollmentRow} {seq : Sequences} {user : Authz.CurrentUser}
    (hother : ∀ n' ∈ d.val.enrollments,
      ¬(n'.studentId = n.studentId ∧ n'.eventClassMapId = n.eventClassMapId))
    (hparent : n.parentId = none ∨ n.state = .approvedByParent ∧ ∃ p, actor.id = .number p ∧
      n.parentId = some p ∧ canParentApproveForStudent d.val n.studentId p = true)
    (h : d'.val = { d.val with enrollments := d.val.enrollments ++ [n], seq }) :
    Records actor (some (.enroll user n.studentId n.eventClassMapId n.state)) d d' := by
  have hmem : ∀ n' ∈ d'.val.enrollments, n' ∈ d.val.enrollments ∨ n' = n := by
    intro n' hn'
    rw [h] at hn'
    simpa using hn'
  -- the database refuses a second row with the id
  have hkeys := d'.ok.keys.enrollments
  rw [h] at hkeys
  refine ⟨⟨by rw [h], fun n' hn' => ⟨n', by rw [h]; exact List.mem_append_left _ hn',
    rfl, rfl, rfl⟩⟩,
    fun n' hn' => ?_, fun n' hn' hmark => ?_⟩
  · rcases hmem n' hn' with hold | rfl
    · refine .inl ⟨n', hold, ⟨rfl, rfl, rfl⟩, rfl, id, decide_eq_false fun hboth => ?_⟩
      exact hother n' hold ⟨hboth.1.symm, hboth.2.1.symm⟩
    · refine .inr (hparent.imp_right fun ⟨hst, p, hactor, hp, hmay⟩ => ⟨?_, ?_, p, hactor, hp, ?_⟩)
      · simp [Mark.Puts, hst, parentStage]
      · simp [hst]
      · unfold canParentApproveForStudent at hmay ⊢
        rw [h]
        exact hmay
  · rcases hmem n' hn' with hold | rfl
    · exact .inl ⟨n', hold, rfl, rfl⟩
    · refine .inr ⟨hkeys.ne_of_append, hparent.resolve_right ?_⟩
      rintro ⟨hst, -⟩
      simp [Mark.Puts, hst, teacherStage] at hmark

theorem createEnrollment_records {id : Nat} {user : Authz.CurrentUser} {parentId : Option ParsedId}
    {teacherCol parentCol : Option Nat} (henters : EntersWith actor studentId st parentId d)
    (hparent : parentId.mapM ParsedId.column = .ok parentCol)
    (hnone : ∀ n ∈ d.val.enrollments, n.studentId = studentId → n.eventClassMapId = mapId →
      n.parentId = none)
    (h : createEnrollment studentId mapId st teacherCol parentCol d = .ok id d') :
    Records actor (some (.enroll user studentId mapId st)) d d' := by
  unfold createEnrollment at h
  rw [query_bind] at h
  dsimp only at h
  cases hexisting : d.val.enrollments.find? fun n =>
      decide (n.studentId = studentId ∧ n.eventClassMapId = mapId) with
  | some existing =>
    rw [hexisting] at h
    obtain ⟨⟨⟩, t, hupdate, hret⟩ := bind_eq_ok.1 h
    obtain ⟨-, rfl⟩ := pure_eq_ok.1 hret
    have hmem := List.mem_of_find?_eq_some hexisting
    have hkey : existing.studentId = studentId ∧ existing.eventClassMapId = mapId := by
      simpa using List.find?_some hexisting
    refine records_updateState (fun n hn hid => ?_) (fun n hn hstudent hmap => ?_)
      (exec_eq_ok.1 hupdate)
    · rw [d.ok.keys.enrollments.eq_of_key_eq hn hmem hid]
      exact hnone existing hmem hkey.1 hkey.2
    · rw [d.ok.unique.enrollment.eq_of_key_eq hn hmem
        (Prod.ext (hstudent.trans hkey.1.symm) (hmap.trans hkey.2.symm))]
  | none =>
    rw [hexisting] at h
    dsimp only at h
    rw [query_bind] at h
    obtain ⟨⟨⟩, t, hinsert, hret⟩ := bind_eq_ok.1 h
    obtain ⟨-, rfl⟩ := pure_eq_ok.1 hret
    have hval := exec_eq_ok.1 hinsert
    refine records_append (fun n hn => ?_) ?_ hval
    · simpa using List.find?_eq_none.1 hexisting n hn
    · rcases henters with hnone | ⟨hid, hst, p, hactor, hmay⟩
      · rw [hnone] at hparent
        cases hparent
        exact .inl rfl
      · rw [hid, hactor] at hparent
        cases hparent
        exact .inr ⟨hst, p, hactor, rfl, hmay⟩

theorem keeps_pendingPayment (enrollmentId : Nat) {H : Mark → Db → Prop} :
    (TenantService.createPendingPayment enrollmentId).Keeps H (Records actor) := by
  unfold TenantService.createPendingPayment
  refine Proc.keeps_bind (Proc.keeps_look records_refl _) fun details => ?_
  cases details with
  | none => exact Proc.keeps_ret _
  | some details =>
    refine Proc.keeps_ite (fun _ => ?_) fun _ => Proc.keeps_ret _
    refine Proc.keeps_once fun d => ?_
    unfold createPayment
    exact after_exec_ind (records_refl d) fun d' h => records_of_eq (by rw [h]) (by rw [h])

theorem valid_enroll (user : Authz.CurrentUser) (teacherId parentId : Option ParsedId) :
    (TenantService.enroll user studentId mapId st teacherId parentId).Valid (OneHat actor) Stays
      (Records actor) (fun _ _ => True) (EntersWith actor studentId st parentId) := by
  unfold TenantService.enroll
  refine valid_ofExcept_bind fun teacherCol _ => valid_ofExcept_bind fun parentCol hparent => ?_
  refine Proc.valid_bind (M := fun _ _ => True) ?_ fun id =>
    Proc.Keeps.bind (keeps_pendingPayment id) fun _ => Proc.valid_ret fun _ _ => trivial
  refine Proc.valid_marked (fun d henters hnone id d' hm => ⟨?_, trivial⟩) (fun d _ _ e d' hm => ?_)
    fun _ => Proc.stable_true _
  · exact createEnrollment_records henters hparent hnone hm
  · rw [createEnrollment_error hm]
    exact records_refl d

theorem valid_enrollStudent (user : Authz.CurrentUser) (teacherId parentId : Option ParsedId) :
    (TenantService.enrollStudent user studentId mapId st teacherId parentId).Valid
      (OneHat actor) Stays
      (Records actor) (fun _ _ => True) (EntersWith actor studentId st parentId) := by
  have hR : ∀ mark d d', Records actor mark d d' → Stays d d' := fun _ _ _ => stays_of_records
  unfold TenantService.enrollStudent
  refine Proc.Gives.frame_bind (Proc.keeps_look records_refl _) hR stable_entersWith
    fun classMap _ => ?_
  cases classMap with
  | none => exact Proc.valid_fail _
  | some classMap =>
    refine Proc.Gives.frame_bind (keeps_getEventById records_refl _) hR stable_entersWith
      fun event _ => ?_
    refine Proc.Gives.frame_bind Proc.keeps_failIf hR stable_entersWith fun _ _ => ?_
    refine Proc.Gives.frame_bind (Proc.keeps_look records_refl _) hR stable_entersWith
      fun student _ => ?_
    cases student with
    | none => exact Proc.valid_fail _
    | some student =>
      refine Proc.Gives.frame_bind (Proc.keeps_look records_refl _) hR stable_entersWith
        fun existing _ => ?_
      cases existing.find? fun n => decide (n.eventClassMapId = mapId) with
      | some n => exact Proc.valid_ret fun _ _ => trivial
      | none =>
        refine Proc.Gives.frame_bind Proc.keeps_failIf hR stable_entersWith fun _ _ => ?_
        refine Proc.Gives.frame_bind Proc.keeps_failIf hR stable_entersWith fun _ _ => ?_
        exact valid_enroll user teacherId parentId

/-- Only a parent who may approve enters themselves as the parent. -/
theorem valid_entry (actor : Actor) (studentId : Nat) :
    (StudentsRouter.entry actor studentId).Valid (OneHat actor) Stays (Records actor)
      (fun entry d => EntersWith actor studentId entry.state entry.parentId d) fun _ => True := by
  unfold StudentsRouter.entry
  refine Proc.valid_ite (fun hparent => ?_) fun _ =>
    Proc.valid_ite (fun _ => ?_) fun _ => Proc.valid_ret fun _ _ => .inl rfl
  · cases hid : actor.id with
    | other asInt => exact Proc.valid_fail _
    | number p =>
      show (Proc.look _ >>= _ : Task StudentsRouter.Entry).Valid _ _ _ _ _
      refine Proc.Keeps.bind (Proc.keeps_look records_refl _) fun linked => ?_
      refine Proc.valid_ite (fun _ => ?_) fun _ =>
        Proc.valid_ite (fun _ => Proc.valid_ret fun _ _ => .inl rfl) fun _ => Proc.valid_fail _
      refine Proc.valid_bind (valid_lookConsent hid) fun canApprove => Proc.valid_ret fun d hd => ?_
      by_cases hmay : canApprove = true
      · rw [if_pos hmay]
        exact .inr ⟨hid ▸ rfl, rfl, hd hmay⟩
      · rw [if_neg hmay]
        exact .inl rfl
  · exact Proc.valid_ret fun _ _ => .inl rfl

theorem valid_enrollRoute (actor : Actor) (studentId mapId : Nat) :
    (StudentsRouter.enrollStudent actor studentId mapId).Valid (OneHat actor) Stays (Records actor)
      (fun _ _ => True) fun _ => True := by
  unfold StudentsRouter.enrollStudent
  refine Proc.valid_bind (valid_entry actor studentId) fun entry => Proc.Valid.wrap ?_ _
  refine Proc.valid_bind (valid_enrollStudent actor.user entry.teacherId entry.parentId) fun id =>
    ?_
  refine Proc.Keeps.bind (Proc.keeps_look records_refl _) fun answer => ?_
  cases answer with
  | none => exact Proc.valid_fail _
  | some answer => exact Proc.valid_ret fun _ _ => trivial

end Entering

/-! ## Runs -/

def Approval.actor : Approval → Actor
  | .enroll actor _ _ => actor
  | .decide actor _ _ => actor

theorem Approval.records (r : Approval) :
    r.program.Valid (OneHat r.actor) Stays (Records r.actor) (fun _ _ => True) fun _ => True := by
  cases r with
  | enroll actor studentId mapId => exact valid_enrollRoute actor studentId mapId
  | decide actor enrollmentId requested =>
    exact valid_updateEnrollmentApproval actor enrollmentId requested

section Runs

variable {ι : Type} [DecidableEq ι]

/-- The last request that entered the enrollment, or decided on it, at the parent stage. -/
def decider (log : List (ι × Mark)) (n : EnrollmentRow) : Option ι :=
  (log.reverse.find? fun e => e.2.Puts parentStage n).map Prod.fst

/-- An enrollment records nobody, or the parent who may approve for the student
and who has decided. -/
def Consented (requests : ι → Approval) (P : Pool ι Mark PyError Db EnrollmentDetails)
    (n : EnrollmentRow) : Prop :=
  n.parentId = none ∨ n.state ≠ .requestedByStudent ∧ ∃ i p, decider P.log n = some i ∧
    (requests i).actor.id = .number p ∧ n.parentId = some p ∧
      canParentApproveForStudent P.state.val n.studentId p = true

/-- What a run keeps: whom the enrollments record, and that the teacher stage records nobody. -/
structure ConsentSafe (requests : ι → Approval) (P : Pool ι Mark PyError Db EnrollmentDetails)
    (is : List ι) : Prop where
  recorded : Throughout Pool.step (fun P => ∀ n ∈ P.state.val.enrollments, Consented requests P n) P
    is
  teacher : EachStep Pool.step (fun P i => ∀ n' ∈ (P.step i).state.val.enrollments,
    (P.event i).any (·.Puts teacherStage n') = true →
      (∃ n ∈ P.state.val.enrollments, n.id = n'.id ∧ n.parentId = n'.parentId) ∨
        (∀ n ∈ P.state.val.enrollments, n.id ≠ n'.id) ∧ n'.parentId = none) P is

omit [DecidableEq ι] in
/-- What was logged last comes first. -/
theorem decider_append (log : List (ι × Mark)) (i : ι) (mark : Option Mark) (n : EnrollmentRow) :
    decider (log ++ (mark.map fun x => (i, x)).toList) n =
      if mark.any (·.Puts parentStage n) then some i else decider log n := by
  unfold decider
  cases mark with
  | none => simp
  | some x => by_cases hx : x.Puts parentStage n = true <;> simp [hx]

omit [DecidableEq ι] in
theorem SameEnrollment.decider {n n' : EnrollmentRow} (h : SameEnrollment n n')
    (log : List (ι × Mark)) : decider log n = decider log n' := by
  unfold Trips.decider
  simp only [h.puts]

/-- **One step** leaves every enrollment with nobody, or with the parent who has decided. -/
theorem consented_step {requests : ι → Approval}
    {P : Pool ι Mark PyError Db EnrollmentDetails} {i : ι}
    (hrecords : Records (requests i).actor (P.event i) P.state (P.step i).state)
    (hP : ∀ n ∈ P.state.val.enrollments, Consented requests P n) :
    ∀ n ∈ (P.step i).state.val.enrollments, Consented requests (P.step i) n := by
  intro n' hn'
  unfold Consented
  rw [Pool.log_step, decider_append]
  rcases hrecords.origin n' hn' with ⟨n, hn, hcarried⟩ | hnone |
    ⟨hmark, hstate, p, hactor, hp, hmay⟩
  · rw [hcarried.unmarked, ← hcarried.parent, ← hcarried.same.decider, ← hcarried.same.student]
    refine (hP n hn).imp id fun ⟨hstate, j, p, hj, hactor, hp, hmay⟩ => ?_
    refine ⟨fun hrequested => hstate (hcarried.decided hrequested), j, p, hj, hactor, hp, ?_⟩
    unfold canParentApproveForStudent at hmay ⊢
    rw [hrecords.links]
    exact hmay
  · exact .inl hnone
  · rw [hmark]
    exact .inr ⟨hstate, i, p, rfl, hactor, hp, hmay⟩

/-- **An enrollment records the parent who has consented** in every run in which no parent of the
school decides at the teacher stage with the role of one, and no enrollment is entered over one
that records a parent. -/
theorem consent_run {d : Db} (hd : ∀ n ∈ d.val.enrollments, n.parentId = none)
    (requests : ι → Approval) {is : List ι}
    (h : EachStep Pool.step (fun P i => P.Undisturbed (fun i => OneHat (requests i).actor) i)
      (enrolling d requests) is) : ConsentSafe requests (enrolling d requests) is := by
  let H : ι → Mark → Db → Prop := fun i => OneHat (requests i).actor
  let G : ι → Option Mark → Db → Db → Prop := fun i => Records (requests i).actor
  let I : Pool ι Mark PyError Db EnrollmentDetails → Prop := fun P =>
    P.Sound H Stays G (fun _ _ _ => True) ∧ ∀ n ∈ P.state.val.enrollments, Consented requests P n
  have hstart : I (enrolling d requests) :=
    ⟨Pool.sound_start fun i => (requests i).records, fun n hn => .inl (hd n hn)⟩
  have hone : ∀ P i, I P → P.Undisturbed H i → I (P.step i) ∧
      G i (P.event i) P.state (P.step i).state := by
    intro P i hP hi
    obtain ⟨hsound, hrecords⟩ :=
      hP.1.step (fun _ => records_refl) (fun _ _ _ _ => stays_of_records) hi
    exact ⟨⟨hsound, consented_step hrecords hP.2⟩, hrecords⟩
  have hstep : ∀ P i, I P → P.Undisturbed H i → I (P.step i) := fun P i hP hi => (hone P i hP hi).1
  exact ⟨(run_throughout hstep hstart h).mono fun _ hI => hI.2,
    run_each hstep (fun P i hP hi => (hone P i hP hi).2.teacher) hstart h⟩

end Runs

/-! ## A teacher who is a parent -/

/-- The small school, whose student has requested the trip and has a parent. The teacher is a parent
too, of another child. -/
def teacherParentTrip : Db where
  val := { requestedTrip.val with
    teachers := [⟨2, "T"⟩]
    parents := [⟨2, "T"⟩, ⟨4, "P"⟩]
    studentParents := [{ studentId := 1, parentId := 4 }] }
  ok := by decide +kernel

/-- The parent approves the request, and the teacher the enrollment. -/
def parentThenTeacher : Bool → Approval
  | false => .decide (parent 4) 1 (.state .approvedByParent)
  | true => .decide { user := { teacher with roles := ["teacher", "parent"] }, id := .number 2 } 1
      (.state .approvedByTeacher)

theorem teacherParentTrip_records : ∀ n ∈ teacherParentTrip.val.enrollments, n.parentId = none := by
  decide +kernel

/-- The approval of the parent alone. -/
theorem parent_recorded : ConsentSafe parentThenTeacher
    (enrolling teacherParentTrip parentThenTeacher) [false, false, false, false] := by
  have honehat : EachStep Pool.step
      (fun P i => P.Undisturbed (fun i => OneHat (parentThenTeacher i).actor) i)
      (enrolling teacherParentTrip parentThenTeacher) [false, false, false, false] := by
        decide +kernel
  exact consent_run teacherParentTrip_records parentThenTeacher honehat

/-- The teacher takes the place of the parent who has approved. -/
theorem teacher_recorded : (∀ n ∈ teacherParentTrip.val.enrollments, n.parentId = none) ∧
    ¬ConsentSafe parentThenTeacher (enrolling teacherParentTrip parentThenTeacher)
      [false, false, false, false, true, true, true, true] := by
  refine ⟨teacherParentTrip_records, fun h => ?_⟩
  have hteacher : ∃ n ∈ (run Pool.step (enrolling teacherParentTrip parentThenTeacher)
      [false, false, false, false, true, true, true, true]).state.val.enrollments,
      n.parentId = some 2 ∧ n.studentId = 1 := by decide +kernel
  have hmay : canParentApproveForStudent
      (run Pool.step (enrolling teacherParentTrip parentThenTeacher)
      [false, false, false, false, true, true, true, true]).state.val 1 2 = false := by
        decide +kernel
  obtain ⟨n, hn, hparent, hstudent⟩ := hteacher
  rcases h.recorded.last n hn with hnone | ⟨-, i, p, -, -, hp, happrove⟩
  · rw [hparent] at hnone
    cases hnone
  · obtain rfl : 2 = p := Option.some.inj (hparent.symm.trans hp)
    rw [hstudent, hmay] at happrove
    cases happrove

end Sams.Trips
