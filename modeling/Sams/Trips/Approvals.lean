import Sams.School.Payments
import Sams.Trips.Actions
import Sams.Trips.Enrollments

/-!
# Requesting and deciding on enrollments

Any number of requests that enter an enrollment and of decisions on one, their actions interleaved
in any order. A request that enters has read that there is no enrollment yet, and a decision has
read the state that it decides on.

**`approvals_ordered`**: in every run in which each write finds what its request has read, the state
of an enrollment moves along the workflow only, a new one starts at a state that its actor may
enter, and no decision is overwritten by a request that has read an older state.
-/

namespace Sams.Trips

open School Programs Rows Runs Interleaving TenantRepository

/-! ## The workflow of an enrollment -/

/-- The workflow of an enrollment. -/
def EnrollmentEdge (st next : EnrollmentState) : Prop :=
  (st, next) ∈ [(EnrollmentState.requestedByStudent, EnrollmentState.approvedByParent),
    (.requestedByStudent, .rejectedByParent), (.approvedByParent, .approvedByTeacher),
    (.approvedByParent, .rejectedByTeacher)]

instance (st next : EnrollmentState) : Decidable (EnrollmentEdge st next) :=
  inferInstanceAs (Decidable (_ ∈ _))

/-- The states that a user may enter an enrollment with. -/
def Enters (user : Authz.CurrentUser) : EnrollmentState → Prop
  | .requestedByStudent => True
  | .approvedByParent => user.hasRole "parent" = true
  | .approvedByTeacher => user.hasRole "teacher" = true
  | _ => False

/-- What the writes take for granted: the state that was read, or that there is no enrollment. A new
enrollment may also find one at the very state that it enters. -/
def AsRead : Mark → Db → Prop
  | .decide enrollmentId found _, d =>
    ∀ n ∈ d.val.enrollments, n.id = enrollmentId → n.state = found
  | .enroll _ studentId mapId state, d =>
    ∀ n ∈ d.val.enrollments, n.studentId = studentId ∧ n.eventClassMapId = mapId → n.state = state
  | _, _ => True

instance (mark : Mark) (d : Db) : Decidable (AsRead mark d) := by
  induction mark using Mark.casesOn <;> unfold AsRead <;> infer_instance

/-- One action moves enrollments along the workflow, and enters one where it says so. -/
structure Along (mark : Option Mark) (d d' : Db) : Prop where
  moved : ∀ n ∈ d.val.enrollments, ∃ n' ∈ d'.val.enrollments, n'.id = n.id ∧
    (n'.state = n.state ∨ EnrollmentEdge n.state n'.state)
  entered : ∀ n' ∈ d'.val.enrollments, (∃ n ∈ d.val.enrollments, n.id = n'.id) ∨
    ∃ user, mark = some (.enroll user n'.studentId n'.eventClassMapId n'.state) ∧
      Enters user n'.state
  decided : ∀ enrollmentId found state, mark = some (.decide enrollmentId found state) →
    EnrollmentEdge found state ∧ ∀ n ∈ d.val.enrollments, n.id = enrollmentId → n.state = found

/-- The enrollments are left alone. -/
theorem along_of_eq {d d' : Db} (h : d'.val.enrollments = d.val.enrollments) : Along none d d' where
  moved n hn := ⟨n, h ▸ hn, rfl, .inl rfl⟩
  entered n hn := .inl ⟨n, h ▸ hn, rfl⟩
  decided _ _ _ hmark := by cases hmark

theorem along_refl (d : Db) : Along none d d := along_of_eq rfl

/-! ## Deciding -/

theorem oneOf_eq_some {name : StudentsRouter.StateName} {s s' st : EnrollmentState}
    (h : name.oneOf s s' = some st) : st = s ∨ st = s' := by
  unfold StudentsRouter.StateName.oneOf at h
  split_ifs at h
  · exact .inl (Option.some.inj h).symm
  · exact .inr (Option.some.inj h).symm

theorem parentDecision_ok {current st : EnrollmentState} {requested : StudentsRouter.StateName}
    (h : StudentsRouter.parentDecision current requested = .ok st) : EnrollmentEdge current st := by
  unfold StudentsRouter.parentDecision at h
  split_ifs at h with hcurrent
  · have hcurrent : current = .requestedByStudent := not_not.1 hcurrent
    subst hcurrent
    cases hname : requested.oneOf .approvedByParent .rejectedByParent with
    | none =>
      rw [hname] at h
      cases h
    | some s =>
      rw [hname] at h
      cases h
      rcases oneOf_eq_some hname with rfl | rfl <;> decide

theorem teacherDecision_ok {actor : Actor} {details : EnrollmentDetails} {st : EnrollmentState}
    {requested : StudentsRouter.StateName}
    (h : StudentsRouter.teacherDecision actor details requested = .ok st) :
    EnrollmentEdge details.row.state st := by
  unfold StudentsRouter.teacherDecision at h
  split_ifs at h with hcreator hrequested hcurrent
  · rw [not_not.1 hcurrent]
    cases hname : requested.oneOf .approvedByTeacher .rejectedByTeacher with
    | none =>
      rw [hname] at h
      cases h
    | some s =>
      rw [hname] at h
      cases h
      rcases oneOf_eq_some hname with rfl | rfl <;> decide

/-- A decision goes along the workflow from the state that was read. -/
theorem decision_ok {actor : Actor} {parent : StudentsRouter.Parenthood}
    {details : EnrollmentDetails} {requested : StudentsRouter.StateName} {st : EnrollmentState}
    {teacherId : Option ParsedId}
    (h : StudentsRouter.decision actor parent details requested = .ok (st, teacherId)) :
    EnrollmentEdge details.row.state st := by
  unfold StudentsRouter.decision at h
  split_ifs at h
  · cases hdecision : StudentsRouter.parentDecision details.row.state requested with
    | error e =>
      rw [hdecision] at h
      cases h
    | ok s =>
      rw [hdecision] at h
      cases h
      exact parentDecision_ok hdecision
  · cases hdecision : StudentsRouter.teacherDecision actor details requested with
    | error e =>
      rw [hdecision] at h
      cases h
    | ok s =>
      rw [hdecision] at h
      cases h
      exact teacherDecision_ok hdecision

theorem keeps_decide {enrollmentId : Nat} {found st : EnrollmentState}
    (hedge : EnrollmentEdge found st) (teacherId parentId : Option Nat) :
    (Proc.marked (.decide enrollmentId found st)
      (updateEnrollmentState enrollmentId st teacherId parentId) :
    Task Unit).Keeps AsRead Along := by
  refine Proc.keeps_marked (fun d hfound u d' hm => ?_) fun d _ e d' hm => ?_
  · unfold updateEnrollmentState at hm
    have hval := exec_eq_ok.1 hm
    refine ⟨fun n hn => ?_, fun n' hn' => .inl ?_, ?_⟩
    · refine ⟨_, by rw [hval]; exact mem_updateWhere_of_mem hn, ?_⟩
      by_cases hid : n.id = enrollmentId
      · refine ⟨by simp [hid], .inr ?_⟩
        rw [hfound n hn hid]
        simpa [hid] using hedge
      · simp [hid]
    · rw [hval] at hn'
      rcases cases_of_mem_updateWhere hn' with ⟨hn, -⟩ | ⟨n, hn, -, rfl⟩
      · exact ⟨n', hn, rfl⟩
      · exact ⟨n, hn, rfl⟩
    · rintro _ _ _ ⟨⟩
      exact ⟨hedge, hfound⟩
  · unfold updateEnrollmentState at hm
    rw [exec_eq_error hm]
    exact along_refl d

theorem keeps_respondEnrollment (details : Option EnrollmentDetails) :
    (respondEnrollment details).Keeps AsRead Along := by
  cases details with
  | none => exact Proc.keeps_fail _
  | some details => exact Proc.keeps_ret _

theorem keeps_parenthood (actor : Actor) (studentId : Nat) :
    (StudentsRouter.parenthood actor studentId).Keeps AsRead Along := by
  unfold StudentsRouter.parenthood
  refine Proc.keeps_ite (fun _ => ?_) fun _ => Proc.keeps_ret _
  refine Proc.keeps_bind (keeps_ofExcept _) fun parentId => ?_
  refine Proc.keeps_bind (Proc.keeps_look along_refl _) fun mayApprove => ?_
  refine Proc.keeps_ite (fun _ => Proc.keeps_ret _) fun _ => ?_
  exact Proc.keeps_bind (Proc.keeps_look along_refl _) fun _ => Proc.keeps_ret _

theorem keeps_updateEnrollmentApproval (actor : Actor) (enrollmentId : Nat)
    (requested : StudentsRouter.StateName) :
    (StudentsRouter.updateEnrollmentApproval actor enrollmentId requested).Keeps AsRead Along := by
  unfold StudentsRouter.updateEnrollmentApproval
  refine Proc.keeps_bind (Proc.keeps_look along_refl _) fun details => ?_
  cases details with
  | none => exact Proc.keeps_fail _
  | some details =>
    refine Proc.keeps_bind (keeps_parenthood _ _) fun parent => ?_
    refine keeps_ofExcept_bind fun ⟨st, teacherId⟩ hdecision => ?_
    refine Proc.keeps_bind (keeps_ofExcept _) fun teacherId => ?_
    refine Proc.keeps_bind (keeps_ofExcept _) fun parentId => ?_
    refine Proc.keeps_bind (keeps_decide (decision_ok hdecision) _ _) fun _ => ?_
    exact Proc.keeps_bind (Proc.keeps_look along_refl _) fun _ => keeps_respondEnrollment _

/-! ## Entering -/

theorem createEnrollment_ok {user : Authz.CurrentUser} {studentId mapId id : Nat}
    {st : EnrollmentState} {teacherId parentId : Option Nat} {d d' : Db} (henters : Enters user st)
    (hfound : ∀ n ∈ d.val.enrollments,
      n.studentId = studentId ∧ n.eventClassMapId = mapId → n.state = st)
    (h : createEnrollment studentId mapId st teacherId parentId d = .ok id d') :
    Along (some (.enroll user studentId mapId st)) d d' := by
  unfold createEnrollment at h
  rw [query_bind] at h
  dsimp only at h
  cases hexisting : d.val.enrollments.find? fun n =>
      decide (n.studentId = studentId ∧ n.eventClassMapId = mapId) with
  | some existing =>
    rw [hexisting] at h
    obtain ⟨⟨⟩, t, hupdate, hret⟩ := bind_eq_ok.1 h
    obtain ⟨-, rfl⟩ := pure_eq_ok.1 hret
    have hval := exec_eq_ok.1 hupdate
    -- the one that it finds is at the state that is entered
    have hstate : ∀ n ∈ d.val.enrollments, n.id = existing.id → n.state = st := by
      intro n hn hid
      have hmem := List.mem_of_find?_eq_some hexisting
      rw [d.ok.keys.enrollments.eq_of_key_eq hn hmem hid]
      exact hfound existing hmem (by simpa using List.find?_some hexisting)
    refine ⟨fun n hn => ?_, fun n' hn' => .inl ?_, by simp⟩
    · refine ⟨_, by rw [hval]; exact mem_updateWhere_of_mem hn, ?_⟩
      by_cases hid : n.id = existing.id
      · exact ⟨by simp [hid], .inl (by simp [hid, hstate n hn hid])⟩
      · simp [hid]
    · rw [hval] at hn'
      rcases cases_of_mem_updateWhere hn' with ⟨hn, -⟩ | ⟨n, hn, -, rfl⟩
      · exact ⟨n', hn, rfl⟩
      · exact ⟨n, hn, rfl⟩
  | none =>
    rw [hexisting] at h
    dsimp only at h
    rw [query_bind] at h
    obtain ⟨⟨⟩, t, hinsert, hret⟩ := bind_eq_ok.1 h
    obtain ⟨-, rfl⟩ := pure_eq_ok.1 hret
    have hval := exec_eq_ok.1 hinsert
    refine ⟨fun n hn => ⟨n, ?_, rfl, .inl rfl⟩, fun n' hn' => ?_, by simp⟩
    · rw [hval]
      exact List.mem_append_left _ hn
    · rw [hval, List.mem_append, List.mem_singleton] at hn'
      rcases hn' with hn' | rfl
      · exact .inl ⟨n', hn', rfl⟩
      · exact .inr ⟨user, rfl, henters⟩

theorem createEnrollment_error {studentId mapId : Nat} {st : EnrollmentState}
    {teacherId parentId : Option Nat} {d d' : Db} {e : PyError}
    (h : createEnrollment studentId mapId st teacherId parentId d = .error e d') : d' = d := by
  unfold createEnrollment at h
  rw [query_bind] at h
  dsimp only at h
  cases hexisting : d.val.enrollments.find? fun n =>
      decide (n.studentId = studentId ∧ n.eventClassMapId = mapId) with
  | some existing =>
    rw [hexisting] at h
    rcases bind_eq_error.1 h with h | ⟨_, _, _, h⟩
    · exact exec_eq_error h
    · cases h
  | none =>
    rw [hexisting] at h
    dsimp only at h
    rw [query_bind] at h
    rcases bind_eq_error.1 h with h | ⟨_, _, _, h⟩
    · exact exec_eq_error h
    · cases h

theorem keeps_createPendingPayment (enrollmentId : Nat) :
    (TenantService.createPendingPayment enrollmentId).Keeps AsRead Along := by
  unfold TenantService.createPendingPayment
  refine Proc.keeps_bind (Proc.keeps_look along_refl _) fun details => ?_
  cases details with
  | none => exact Proc.keeps_ret _
  | some details =>
    refine Proc.keeps_ite (fun _ => ?_) fun _ => Proc.keeps_ret _
    refine Proc.keeps_once fun d => ?_
    unfold createPayment
    exact after_exec_ind (along_refl d) fun d' h => along_of_eq (by rw [h])

theorem keeps_enroll {user : Authz.CurrentUser} {st : EnrollmentState} (henters : Enters user st)
    (studentId mapId : Nat) (teacherId parentId : Option ParsedId) :
    (TenantService.enroll user studentId mapId st teacherId parentId).Keeps AsRead Along := by
  unfold TenantService.enroll
  refine Proc.keeps_bind (keeps_ofExcept _) fun teacherId => ?_
  refine Proc.keeps_bind (keeps_ofExcept _) fun parentId => ?_
  refine Proc.keeps_bind ?_ fun id =>
    Proc.keeps_bind (keeps_createPendingPayment _) fun _ => Proc.keeps_ret _
  refine Proc.keeps_marked (fun d hfound id d' hm => createEnrollment_ok henters hfound hm)
    fun d _ e d' hm => ?_
  rw [createEnrollment_error hm]
  exact along_refl d

theorem keeps_enrollStudent {user : Authz.CurrentUser} {st : EnrollmentState}
    (henters : Enters user st) (studentId mapId : Nat) (teacherId parentId : Option ParsedId) :
    (TenantService.enrollStudent user studentId mapId st teacherId parentId).Keeps
      AsRead Along := by
  unfold TenantService.enrollStudent
  refine Proc.keeps_bind (Proc.keeps_look along_refl _) fun classMap => ?_
  cases classMap with
  | none => exact Proc.keeps_fail _
  | some classMap =>
    refine Proc.keeps_bind (keeps_getEventById along_refl _) fun event => ?_
    refine Proc.keeps_bind Proc.keeps_failIf fun _ => ?_
    refine Proc.keeps_bind (Proc.keeps_look along_refl _) fun student => ?_
    cases student with
    | none => exact Proc.keeps_fail _
    | some student =>
      refine Proc.keeps_bind (Proc.keeps_look along_refl _) fun existing => ?_
      cases existing.find? fun n => decide (n.eventClassMapId = mapId) with
      | some n => exact Proc.keeps_ret _
      | none =>
        exact Proc.keeps_bind Proc.keeps_failIf fun _ => Proc.keeps_bind Proc.keeps_failIf fun _ =>
          keeps_enroll henters _ _ _ _

/-- Everyone enters an enrollment with a state that they may. -/
theorem gives_entry (actor : Actor) (studentId : Nat) :
    (StudentsRouter.entry actor studentId).Gives AsRead Along
      fun entry => Enters actor.user entry.state := by
  unfold StudentsRouter.entry
  refine Proc.gives_ite (fun hparent => ?_) fun _ =>
    Proc.gives_ite (fun hteacher => Proc.gives_ret hteacher) fun _ => Proc.gives_ret trivial
  refine Proc.gives_bind (keeps_ofExcept _) fun parentId _ => ?_
  refine Proc.gives_bind (Proc.keeps_look along_refl _) fun linked _ => ?_
  refine Proc.gives_ite (fun _ => ?_) fun _ =>
    Proc.gives_ite (fun hteacher => Proc.gives_ret hteacher) fun _ => Proc.gives_fail _
  refine Proc.gives_bind (Proc.keeps_look along_refl _) fun canApprove _ => Proc.gives_ret ?_
  split_ifs
  · exact hparent
  · trivial

theorem keeps_enrollRoute (actor : Actor) (studentId mapId : Nat) :
    (StudentsRouter.enrollStudent actor studentId mapId).Keeps AsRead Along := by
  unfold StudentsRouter.enrollStudent
  refine Proc.gives_bind (gives_entry actor studentId) fun entry henters => Proc.Keeps.wrap ?_ _
  refine Proc.keeps_bind (keeps_enrollStudent henters _ _ _ _) fun id => ?_
  exact Proc.keeps_bind (Proc.keeps_look along_refl _) fun _ => keeps_respondEnrollment _

/-! ## Runs -/

/-- A request that enters an enrollment, or a decision on one. -/
inductive Approval where
  | enroll (actor : Actor) (studentId eventClassMapId : Nat)
  | decide (actor : Actor) (enrollmentId : Nat) (requested : StudentsRouter.StateName)

def Approval.program : Approval → Task EnrollmentDetails
  | .enroll actor studentId mapId => StudentsRouter.enrollStudent actor studentId mapId
  | .decide actor enrollmentId requested =>
    StudentsRouter.updateEnrollmentApproval actor enrollmentId requested

theorem Approval.keeps (r : Approval) : r.program.Keeps AsRead Along := by
  cases r with
  | enroll actor studentId mapId => exact keeps_enrollRoute actor studentId mapId
  | decide actor enrollmentId requested =>
    exact keeps_updateEnrollmentApproval actor enrollmentId requested

section Runs

variable {ι : Type} [DecidableEq ι]

/-- Requests and decisions, any number of them, at their start. -/
def enrolling (d : Db) (requests : ι → Approval) : Pool ι Mark PyError Db EnrollmentDetails :=
  .start d fun i => (requests i).program

/-- **Enrollments move along the workflow** in every run in which each write finds what
its request has read. -/
theorem approvals_ordered (d : Db) (requests : ι → Approval) (is : List ι)
    (h : EachStep Pool.step (fun P i => P.Undisturbed (fun _ => AsRead) i)
      (enrolling d requests) is) :
    EachStep Pool.step (fun P i => Along (P.event i) P.state (P.step i).state)
      (enrolling d requests) is := by
  have hstart : (enrolling d requests).Keeping (fun _ => AsRead) fun _ => Along :=
    Pool.keeping_start fun i => (requests i).keeps
  exact hstart.run (fun _ => along_refl) h

end Runs

/-! ## Two parents -/

/-- The small school, whose student has requested the trip and has two parents. -/
def requestedTrip : Db where
  val := { tripSchool.val with
    users := tripSchool.val.users ++ [⟨4, "p@school", "parent", []⟩, ⟨5, "q@school", "parent", []⟩]
    parents := [⟨4, "P"⟩, ⟨5, "Q"⟩]
    studentParents := [{ studentId := 1, parentId := 4 }, { studentId := 1, parentId := 5 }]
    enrollments := [{ id := 1, studentId := 1, eventClassMapId := 1, state := .requestedByStudent }]
    payments := [] }
  ok := by decide +kernel

def parent (n : Nat) : Actor where
  user :=
    { id := toString n, tenantId := some "school", role := "parent", email := "p@school"
      roles := ["parent"] }
  id := .number n

/-- One parent rejects the request and the other approves it. -/
def twoParents : Bool → Approval
  | false => .decide (parent 4) 1 (.state .rejectedByParent)
  | true => .decide (parent 5) 1 (.state .approvedByParent)

/-- The rejection is written before the other parent reads. -/
theorem parents_in_order :
    EachStep Pool.step (fun P i => Along (P.event i) P.state (P.step i).state)
      (enrolling requestedTrip twoParents) [false, false, false, true, true, false] := by
  have hread : EachStep Pool.step (fun P i => P.Undisturbed (fun _ => AsRead) i)
      (enrolling requestedTrip twoParents) [false, false, false, true, true, false] := by
    decide +kernel
  exact approvals_ordered requestedTrip twoParents _ hread

/-- Both parents have read the request when the rejection is written, and the approval takes its
place. -/
theorem rejection_overwritten :
    ¬EachStep Pool.step (fun P i => Along (P.event i) P.state (P.step i).state)
      (enrolling requestedTrip twoParents) ([false, false, true, true, false] ++ [true]) := by
  intro h
  have hlast := (eachStep_append.1 h).2.1
  have hevent : (run Pool.step (enrolling requestedTrip twoParents)
      [false, false, true, true, false]).event true =
        some (.decide 1 .requestedByStudent .approvedByParent) := by decide +kernel
  have hstate : ∃ n ∈ (run Pool.step (enrolling requestedTrip twoParents)
      [false, false, true, true, false]).state.val.enrollments,
        n.id = 1 ∧ n.state = .rejectedByParent := by decide +kernel
  obtain ⟨n, hn, hid, hrejected⟩ := hstate
  have hrequested := (hlast.decided 1 _ _ hevent).2 n hn hid
  rw [hrejected] at hrequested
  cases hrequested

end Sams.Trips
