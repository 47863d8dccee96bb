import Sams.School.Cascades
import Sams.School.Writes

/-!
# Paid payments under deletions

A payment hangs on an enrollment, this on a class map, and this on an event and on a class; the
enrollment also hangs on a student. `PaidFor sel` says that a paid payment hangs on an enrollment
and a class map that `sel` selects.

Classes are removed only when nothing is enrolled on them, so the deletion of a class or a level and
the structure editor keep every payment. The deletions of an event and of a user remove exactly the
payments that hang on what they delete (`Removes`), the paid ones among them.
-/

namespace Sams.School

open Programs Rows Runs TenantRepository

/-! ## What hangs on what -/

/-- A paid payment hangs on an enrollment and a class map that `sel` selects. -/
def Tables.PaidFor (t : Tables) (sel : EnrollmentRow → EventClassRow → Prop) : Prop :=
  ∃ p ∈ t.payments, p.status = .paid ∧ ∃ n ∈ t.enrollments, n.id = p.enrollmentId ∧
    ∃ m ∈ t.eventClasses, m.id = n.eventClassMapId ∧ sel n m

/-- What hangs on an event. -/
def ofEvent (eid : Nat) (_ : EnrollmentRow) (m : EventClassRow) : Prop := m.eventId = eid

/-- What hangs on a user: as a student, or through an event they created. -/
def Tables.ofUser (t : Tables) (uid : Nat) (n : EnrollmentRow) (m : EventClassRow) : Prop :=
  n.studentId = uid ∨ ∃ e ∈ t.events, e.id = m.eventId ∧ e.createdBy = uid

/-- What hangs on classes. -/
def ofClasses (ids : List Nat) (_ : EnrollmentRow) (m : EventClassRow) : Prop := m.classId ∈ ids

/-- No paid payment is gone. -/
def KeepsPaid (d d' : Db) : Prop :=
  ∀ p ∈ d.val.payments, p.status = .paid → p ∈ d'.val.payments

instance : IsPreorder Db KeepsPaid where
  refl _ _ hp _ := hp
  trans _ _ _ h h' p hp hpaid := h' p (h p hp hpaid) hpaid

theorem keepsPaid_of_eq {d d' : Db} (h : d'.val.payments = d.val.payments) : KeepsPaid d d' :=
  fun _ hp _ => h ▸ hp

/-- The payments that hang on what `sel` selects are gone, and no others. -/
def Removes (sel : EnrollmentRow → EventClassRow → Prop) (d d' : Db) : Prop :=
  ∀ p ∈ d.val.payments, (p ∈ d'.val.payments ↔
    ∀ n ∈ d.val.enrollments, n.id = p.enrollmentId →
      ∀ m ∈ d.val.eventClasses, m.id = n.eventClassMapId → ¬sel n m)

theorem Removes.keepsPaid_iff {sel : EnrollmentRow → EventClassRow → Prop} {d d' : Db}
    (h : Removes sel d d') : KeepsPaid d d' ↔ ¬d.val.PaidFor sel := by
  constructor
  · rintro hkeeps ⟨p, hp, hpaid, n, hn, hnp, m, hm, hmn, hsel⟩
    exact (h p hp).1 (hkeeps p hp hpaid) n hn hnp m hm hmn hsel
  · intro hnone p hp hpaid
    apply (h p hp).2
    intro n hn hnp m hm hmn hsel
    exact hnone ⟨p, hp, hpaid, n, hn, hnp, m, hm, hmn, hsel⟩

/-! ## Removing classes -/

theorem not_unenrolled {t : Tables} {ids : List Nat} (h : t.PaidFor (ofClasses ids)) :
    ¬t.Unenrolled ids := by
  obtain ⟨p, -, -, n, hn, -, m, hm, hmn, hsel⟩ := h
  unfold Tables.Unenrolled
  rw [List.countP_eq_zero]
  intro hall
  exact hall n hn (List.any_eq_true.2 ⟨m, hm, decide_eq_true ⟨hmn, hsel⟩⟩)

/-- Deleting class maps on which nothing is enrolled deletes no payment. -/
theorem payments_deleteEventClasses {t : Tables} {p : EventClassRow → Bool}
    (h : ∀ n ∈ t.enrollments, ∀ m ∈ t.eventClasses, m.id = n.eventClassMapId → p m = false) :
    (t.deleteEventClasses p).payments = t.payments := by
  apply List.filter_eq_self.2
  intro x _
  simp only [decide_eq_true_eq, List.any_eq_true, not_exists, not_and]
  intro n hn hany
  obtain ⟨m, hm, hp, hmn⟩ := hany
  simp [h n hn m hm hmn] at hp

theorem payments_removeClasses {ids : List Nat} {c : Option Nat} {d d' : Db} {u : Unit}
    (h : removeClasses ids c d = .ok u d') : d'.val.payments = d.val.payments := by
  have hnone := removeClasses_unenrolled h
  unfold Tables.Unenrolled at hnone
  rw [List.countP_eq_zero] at hnone
  obtain ⟨d₁, d₂, hset, hrec, hdel⟩ := removeClasses_ok h
  obtain ⟨history, seq, hval⟩ := hrec.only
  have henrollments : d₂.val.enrollments = d.val.enrollments := by rw [hval, hset]; rfl
  have hmaps : d₂.val.eventClasses = d.val.eventClasses := by rw [hval, hset]; rfl
  have hpayments : d₂.val.payments = d.val.payments := by rw [hval, hset]; rfl
  have hfirst : (d₂.val.deleteEventClasses fun e => e.classId ∈ ids).payments =
      d₂.val.payments := by
    apply payments_deleteEventClasses
    intro n hn m hm hmn
    rw [henrollments] at hn
    rw [hmaps] at hm
    by_contra hin
    apply hnone n hn
    simp only [Bool.not_eq_false, decide_eq_true_eq] at hin
    exact List.any_eq_true.2 ⟨m, hm, decide_eq_true ⟨hmn, hin⟩⟩
  -- the class maps that would go with the classes are gone already
  have hsecond : ((d₂.val.deleteEventClasses fun e => e.classId ∈ ids).deleteClasses fun c =>
      c.id ∈ ids).payments = (d₂.val.deleteEventClasses fun e => e.classId ∈ ids).payments := by
    apply payments_deleteEventClasses
    intro n _ m hm _
    have hout : m.classId ∉ ids := by simpa using (List.mem_filter.1 hm).2
    by_contra hgone
    simp only [Bool.not_eq_false, List.any_eq_true, decide_eq_true_eq] at hgone
    obtain ⟨c, -, hc, hcm⟩ := hgone
    exact hout (hcm ▸ hc)
  rw [hdel, hsecond, hfirst, hpayments]

/-- **Editing levels and classes keeps every payment.** -/
theorem payments_editable [Unicode] : Editable (Same fun d : Db => d.val.payments) where
  peripheral h := moves_exec fun d _ => by
    obtain ⟨levels, settings, blackouts, auditLog, seq, hval⟩ := h d.val
    simp [Same, hval]
  setClasses _ _ _ := moves_exec fun _ _ => rfl
  insertClass _ _ := moves_exec fun _ _ => rfl
  removeClasses _ _ _ _ _ h := payments_removeClasses h

/-! ## Deleting an event -/

namespace Tables

variable {t : Tables} {p : PaymentRow}

theorem mem_payments_deleteEnrollments {q : EnrollmentRow → Bool} :
    p ∈ (t.deleteEnrollments q).payments ↔
      p ∈ t.payments ∧ ∀ n ∈ t.enrollments, n.id = p.enrollmentId → q n = false := by
  unfold deleteEnrollments
  simp only [List.mem_filter, decide_eq_true_eq, List.any_eq_true, not_exists, not_and,
    Bool.eq_false_iff]
  grind

theorem mem_payments_deleteEvents {q : EventRow → Bool} :
    p ∈ (t.deleteEvents q).payments ↔ p ∈ t.payments ∧
      ∀ n ∈ t.enrollments, n.id = p.enrollmentId → ∀ m ∈ t.eventClasses, m.id = n.eventClassMapId →
        ∀ e ∈ t.events, e.id = m.eventId → q e = false := by
  show p ∈ (t.deleteEnrollments _).payments ↔ _
  rw [mem_payments_deleteEnrollments]
  simp only [Bool.eq_false_iff, ne_eq, List.any_eq_true, decide_eq_true_eq, not_exists, not_and]
  grind

end Tables

theorem removes_deleteEvents {d d' : Db} {eid : Nat}
    (h : d'.val = d.val.deleteEvents fun e => e.id = eid) : Removes (ofEvent eid) d d' := by
  intro p hp
  rw [h, Tables.mem_payments_deleteEvents]
  simp only [hp, true_and, decide_eq_false_iff_not]
  constructor
  · intro hkeep n hn hnp m hm hmn hsel
    obtain ⟨e, he, hem⟩ := d.ok.events.event_class_event.exists_row hm rfl
    exact hkeep n hn hnp m hm hmn e he hem (hem.trans hsel)
  · intro hkeep n hn hnp m hm hmn e _ hem heq
    exact hkeep n hn hnp m hm hmn (hem.symm.trans heq)

/-- The route lets the deletion of an event through. -/
def EventDeletable (t : Tables) (u : Authz.CurrentUser) (eid : Nat) : Prop :=
  EventsRouter.isStaff u = true ∧ ∃ e ∈ t.events, e.id = eid

/-- The deletion of an event does what it says or is refused. -/
theorem deleteEvent_ok {u : Authz.CurrentUser} {eid : Nat} {d : Db}
    (h : EventDeletable d.val u eid) : ∃ d', EventsRouter.deleteEvent u eid d = .ok () d' ∧
      d'.val = d.val.deleteEvents fun e => e.id = eid := by
  obtain ⟨hstaff, e, he, heid⟩ := h
  have hfound : d.val.event? eid = some e := d.ok.keys.events.find?_eq_some.2 ⟨he, heid⟩
  have hok := d.val.ok_deleteEvents d.ok fun e => e.id = eid
  refine ⟨⟨_, hok⟩, ?_, rfl⟩
  unfold EventsRouter.deleteEvent EventService.deleteEvent
  rw [raiseIf_bind, if_neg (by simpa using hstaff)]
  refine bind_eq_ok.2 ⟨true, ⟨_, hok⟩, ?_, rfl⟩
  simp only [query_bind, hfound]
  exact bind_eq_ok.2 ⟨(), _, exec_of hok, rfl⟩

theorem deleteEvent_error {u : Authz.CurrentUser} {eid : Nat} {d : Db}
    (h : ¬EventDeletable d.val u eid) : ∃ e, EventsRouter.deleteEvent u eid d = .error e d := by
  unfold EventsRouter.deleteEvent EventService.deleteEvent
  rw [raiseIf_bind]
  by_cases hstaff : EventsRouter.isStaff u = true
  swap
  · exact ⟨_, if_pos hstaff⟩
  rw [if_neg (not_not.2 hstaff)]
  have hnone : d.val.event? eid = none := by
    cases he : d.val.event? eid with
    | none => rfl
    | some e =>
      exact absurd ⟨hstaff, e, d.ok.keys.events.find?_eq_some.1 he⟩ h
  refine ⟨.httpException 404 "Event not found", bind_eq_error.2 (.inr ⟨false, d, ?_, rfl⟩)⟩
  simp only [query_bind, hnone]
  rfl

/-! ## Deleting a user -/

namespace Tables

variable {t : Tables}

/-- A user's reviews are nulled before their row is deleted. -/
def unreviewed (t : Tables) (uid : Nat) : Tables :=
  (t.setEvents fun e =>
    { e with managerReviewerId := setNull (fun id => id = uid) e.managerReviewerId }).setEvents
  fun e => { e with financeReviewerId := setNull (fun id => id = uid) e.financeReviewerId }

theorem ok_setEvents (h : t.Ok) {f : EventRow → EventRow} (hid : ∀ e, (f e).id = e.id)
    (hcreated : ∀ e, (f e).createdBy = e.createdBy)
    (hmanager : ∀ e k, (f e).managerReviewerId = some k → e.managerReviewerId = some k)
    (hfinance : ∀ e k, (f e).financeReviewerId = some k → e.financeReviewerId = some k)
    (hchecked : ∀ e, (f e).amounts = e.amounts ∧
      (f e).predictedAttendance = e.predictedAttendance) : (t.setEvents f).Ok := by
  obtain ⟨hkeys, hunique, hchecks, hplacements, hrollovers, hevents, hcontacts⟩ := h
  exact ⟨{ hkeys with events := hkeys.events.map hid }, { hunique with },
    { hchecks with
      event_amounts := List.forall_mem_map.2 fun e he => by
        rw [(hchecked e).1]
        exact hchecks.event_amounts e he
      event_predicted_attendance := List.forall_mem_map.2 fun e he => by
        rw [(hchecked e).2]
        exact hchecks.event_predicted_attendance e he },
    { hplacements with }, { hrollovers with },
    { hevents with
      event_created_by := hevents.event_created_by.map_same fun e => by rw [hcreated]
      event_manager_reviewer := hevents.event_manager_reviewer.map_left
        (fun _ _ _ hy _ => hy) fun e _ => hmanager e
      event_finance_reviewer := hevents.event_finance_reviewer.map_left
        (fun _ _ _ hy _ => hy) fun e _ => hfinance e
      event_class_event := hevents.event_class_event.map_right hid
      resource_event := hevents.resource_event.map_right hid
      cost_event := hevents.cost_event.map_right hid },
    { hcontacts with notification_event := hcontacts.notification_event.map_right hid }⟩

theorem ok_unreviewed (h : t.Ok) (uid : Nat) :
    (t.setEvents fun e =>
      { e with managerReviewerId := setNull (fun id => id = uid) e.managerReviewerId }).Ok ∧
      (t.unreviewed uid).Ok := by
  have hmanager := ok_setEvents h (f := fun e =>
      { e with managerReviewerId := setNull (fun id => id = uid) e.managerReviewerId })
    (fun _ => rfl) (fun _ => rfl) (fun _ _ hk => (setNull_eq_some.1 hk).1) (fun _ _ hk => hk)
    fun _ => ⟨rfl, rfl⟩
  exact ⟨hmanager, ok_setEvents hmanager (fun _ => rfl) (fun _ => rfl) (fun _ _ hk => hk)
    (fun _ _ hk => (setNull_eq_some.1 hk).1) fun _ => ⟨rfl, rfl⟩⟩

theorem mem_payments_deleteStudents {p : PaymentRow} {q : StudentRow → Bool} :
    p ∈ (t.deleteStudents q).payments ↔ p ∈ t.payments ∧
      ∀ n ∈ t.enrollments, n.id = p.enrollmentId → ∀ s ∈ t.students, s.id = n.studentId →
        q s = false := by
  show p ∈ (t.deleteEnrollments _).payments ↔ _
  rw [mem_payments_deleteEnrollments]
  simp only [Bool.eq_false_iff, ne_eq, List.any_eq_true, decide_eq_true_eq, not_exists, not_and]
  grind

theorem mem_enrollments_deleteStudents {n : EnrollmentRow} {q : StudentRow → Bool} :
    n ∈ (t.deleteStudents q).enrollments ↔
      n ∈ t.enrollments ∧ ∀ s ∈ t.students, s.id = n.studentId → q s = false := by
  show n ∈ t.enrollments.filter _ ↔ _
  simp only [List.mem_filter, decide_eq_true_eq, List.any_eq_true, not_exists, not_and,
    Bool.eq_false_iff]
  grind

theorem mem_payments_deleteUser {p : PaymentRow} {uid : Nat} :
    p ∈ ((t.unreviewed uid).deleteUser uid).payments ↔ p ∈ t.payments ∧
      ∀ n ∈ t.enrollments, n.id = p.enrollmentId →
        (∀ s ∈ t.students, s.id = n.studentId → s.id ≠ uid) ∧
          ∀ m ∈ t.eventClasses, m.id = n.eventClassMapId →
            ∀ e ∈ t.events, e.id = m.eventId → e.createdBy ≠ uid := by
  show p ∈ (((t.unreviewed uid).deleteStudents _).deleteEvents _).payments ↔ _
  rw [mem_payments_deleteEvents, mem_payments_deleteStudents]
  simp only [mem_enrollments_deleteStudents, decide_eq_false_iff_not]
  -- the reviews that were nulled are no part of the chain
  have hevents : ∀ P : Nat → Nat → Prop,
      (∀ e ∈ (t.unreviewed uid).events, P e.id e.createdBy) ↔
        ∀ e ∈ t.events, P e.id e.createdBy := by
    intro P
    simp [unreviewed, setEvents]
  constructor
  · rintro ⟨⟨hp, hstudents⟩, hcreated⟩
    refine ⟨hp, fun n hn hnp => ⟨hstudents n hn hnp, fun m hm hmn => ?_⟩⟩
    exact (hevents fun i c => i = m.eventId → c ≠ uid).1
      (hcreated n ⟨hn, hstudents n hn hnp⟩ hnp m hm hmn)
  · rintro ⟨hp, hchain⟩
    refine ⟨⟨hp, fun n hn hnp => (hchain n hn hnp).1⟩, fun n hn hnp m hm hmn => ?_⟩
    exact (hevents fun i c => i = m.eventId → c ≠ uid).2 ((hchain n hn.1 hnp).2 m hm hmn)

end Tables

theorem removes_deleteUser {d d' : Db} {uid : Nat}
    (h : d'.val = (d.val.unreviewed uid).deleteUser uid) : Removes (d.val.ofUser uid) d d' := by
  intro p hp
  rw [h, Tables.mem_payments_deleteUser]
  simp only [hp, true_and]
  constructor
  · rintro hkeep n hn hnp m hm hmn (hsel | ⟨e, he, hem, hcreated⟩)
    · obtain ⟨s, hs, hsn⟩ := d.ok.rollovers.enrollment_student.exists_row hn rfl
      exact (hkeep n hn hnp).1 s hs hsn (hsn.trans hsel)
    · exact (hkeep n hn hnp).2 m hm hmn e he hem hcreated
  · intro hkeep n hn hnp
    refine ⟨fun s hs hsn hsu => ?_, fun m hm hmn e he hem hcreated => ?_⟩
    · obtain ⟨m, hm, hmn⟩ := d.ok.rollovers.enrollment_event_class.exists_row hn rfl
      exact hkeep n hn hnp m hm hmn (.inl (hsn.symm.trans hsu))
    · exact hkeep n hn hnp m hm hmn (.inr ⟨e, he, hem, hcreated⟩)

/-- The service and the database let the deletion of a user through. -/
structure UserDeletable (t : Tables) (u : Authz.CurrentUser) (uid : Nat) : Prop where
  admin : "super_admin" ∈ u.roles ∨ "school_admin" ∈ u.roles ∨ "admin" ∈ u.roles
  target : ∃ row ∈ t.users, row.id = uid ∧
    ("super_admin" ∈ u.roles ∨ "super_admin" ∉ row.role :: row.roles)
  other : toString uid ≠ u.id
  head_teacher : ∀ c ∈ t.classes, c.headTeacherId ≠ some uid
  authored : t.authored uid = false

/-- The route asks for no more than the service. -/
theorem hasRole_of_admin {u : Authz.CurrentUser}
    (h : "super_admin" ∈ u.roles ∨ "school_admin" ∈ u.roles ∨ "admin" ∈ u.roles) :
    u.hasAnyRole ["school_admin", "super_admin", "admin"] = true := by
  have hheld : ∀ r ∈ u.roles, r ∈ u.held := by
    intro r hr
    unfold Authz.CurrentUser.held
    split_ifs
    · exact hr
    · exact List.mem_cons_of_mem _ hr
  have hrole : u.hasRole "school_admin" = true := by
    unfold Authz.CurrentUser.hasRole
    rcases h with h | h | h <;> simp [hheld _ h]
  simp [Authz.CurrentUser.hasAnyRole, hrole]

theorem unrestricted_of {t : Tables} {u : Authz.CurrentUser} {uid : Nat}
    (h : UserDeletable t u uid) : (t.unreviewed uid).Unrestricted uid := by
  refine ⟨h.head_teacher, fun e he => ?_, h.authored⟩
  simp only [Tables.unreviewed, Tables.setEvents, List.map_map, List.mem_map] at he
  obtain ⟨e, -, rfl⟩ := he
  simp [Tables.setNull_eq_some]

theorem deleteUser_ok {u : Authz.CurrentUser} {uid : Nat} {d : Db}
    (h : UserDeletable d.val u uid) : ∃ row d', AuthRouter.deleteUser u uid d = .ok row d' ∧
      d'.val = (d.val.unreviewed uid).deleteUser uid := by
  obtain ⟨row, hrow, hid, hrank⟩ := h.target
  have hfound : d.val.user? uid = some row := d.ok.keys.users.find?_eq_some.2 ⟨hrow, hid⟩
  obtain ⟨hmanager, hreviews⟩ := Tables.ok_unreviewed d.ok uid
  have hok := Tables.ok_deleteUser hreviews (unrestricted_of h)
  refine ⟨row, ⟨_, hok⟩, ?_, rfl⟩
  have hdelete : UserRepository.deleteUser uid d = .ok (some row) ⟨_, hok⟩ := by
    unfold UserRepository.deleteUser
    rw [transaction_eq_ok]
    simp only [query_bind, hfound]
    refine bind_eq_ok.2 ⟨(), _, exec_of hmanager, bind_eq_ok.2 ⟨(), _, exec_of hreviews, ?_⟩⟩
    refine bind_eq_ok.2 ⟨(), ⟨_, hok⟩, rescue_of_ok ?_, rfl⟩
    unfold UserRepository.deleteUserRow
    have hauthored : (d.val.unreviewed uid).authored uid = false := h.authored
    rw [query_bind, raiseIf_bind, if_neg]
    · exact exec_of hok
    · exact Bool.eq_false_iff.1 hauthored
  unfold AuthRouter.deleteUser TenantService.deleteTenantUser
  rw [raiseIf_bind, if_neg (by simp [hasRole_of_admin h.admin]), raiseIf_bind,
    if_neg (by simpa only [not_not, or_comm, or_assoc] using h.admin)]
  simp only [query_bind, hfound]
  rw [raiseIf_bind, if_neg (by rw [hid]; exact h.other), raiseIf_bind, if_neg]
  · exact bind_eq_ok.2 ⟨some row, _, hdelete, rfl⟩
  · rintro ⟨hsuper, hrank'⟩
    exact hrank.elim hsuper fun hn => hn hrank'

theorem deleteUserRow_ok {uid : Nat} {d d' : Db} {x : Unit}
    (h : UserRepository.deleteUserRow uid d = .ok x d') :
    d.val.authored uid = false ∧ d'.val = d.val.deleteUser uid := by
  unfold UserRepository.deleteUserRow at h
  rw [query_bind, raiseIf_bind] at h
  by_cases hauthored : d.val.authored uid = true
  · rw [if_pos hauthored] at h
    cases h
  · rw [if_neg hauthored] at h
    exact ⟨Bool.eq_false_iff.2 hauthored, exec_eq_ok.1 h⟩

/-- A class that the user heads would refer to a teacher who is gone. -/
theorem not_head_of_deleted {uid : Nat} {d d' : Db} (h : d'.val = d.val.deleteUser uid) :
    ∀ c ∈ d.val.classes, c.headTeacherId ≠ some uid := by
  intro c hc hhead
  have hrefers := d'.ok.placements.class_head_teacher
  rw [h] at hrefers
  obtain ⟨x, hx, hxu⟩ := hrefers.exists_row hc hhead
  have hx : x.id ≠ uid := by simpa using (List.mem_filter.1 hx).2
  exact hx hxu

/-- What the database restricts is not deleted. -/
theorem deleteUser_restricted {uid : Nat} {row : UserRow} {d d' : Db} {o : Option UserRow}
    (hfound : d.val.user? uid = some row) (h : UserRepository.deleteUser uid d = .ok o d') :
    (∀ c ∈ d.val.classes, c.headTeacherId ≠ some uid) ∧ d.val.authored uid = false := by
  unfold UserRepository.deleteUser at h
  rw [transaction_eq_ok] at h
  simp only [query_bind, hfound] at h
  obtain ⟨_, d₁, hmanager, h⟩ := bind_eq_ok.1 h
  obtain ⟨_, d₂, hfinance, h⟩ := bind_eq_ok.1 h
  obtain ⟨_, d₃, hrow, -⟩ := bind_eq_ok.1 h
  have hclasses : d₂.val.classes = d.val.classes := by
    rw [exec_eq_ok.1 hfinance, exec_eq_ok.1 hmanager]
    rfl
  have hsame : d₂.val.authored uid = d.val.authored uid := by
    rw [exec_eq_ok.1 hfinance, exec_eq_ok.1 hmanager]
    rfl
  rcases ok_or_error (UserRepository.deleteUserRow uid) d₂ with ⟨_, hok⟩ | ⟨e, herr⟩
  · obtain ⟨hauthored, hdel⟩ := deleteUserRow_ok hok
    exact ⟨hclasses ▸ not_head_of_deleted hdel, hsame ▸ hauthored⟩
  · rw [rescue_of_error herr] at hrow
    cases hrow

theorem deleteUser_error {u : Authz.CurrentUser} {uid : Nat} {d : Db}
    (h : ¬UserDeletable d.val u uid) : ∃ e, AuthRouter.deleteUser u uid d = .error e d := by
  unfold AuthRouter.deleteUser TenantService.deleteTenantUser
  rw [raiseIf_bind]
  by_cases hroute : u.hasAnyRole ["school_admin", "super_admin", "admin"] = true ∨
      u.hasRole "user:delete" = true
  swap
  · exact ⟨_, if_pos hroute⟩
  rw [if_neg (not_not.2 hroute), raiseIf_bind]
  by_cases hadmin : ("super_admin" ∈ u.roles) ∨ "school_admin" ∈ u.roles ∨ "admin" ∈ u.roles
  swap
  · exact ⟨_, if_pos hadmin⟩
  rw [if_neg (not_not.2 hadmin)]
  cases hfound : d.val.user? uid with
  | none =>
    simp only [query_bind, hfound]
    exact ⟨_, rfl⟩
  | some row =>
    obtain ⟨hrow, hid⟩ := d.ok.keys.users.find?_eq_some.1 hfound
    simp only [query_bind, hfound]
    rw [raiseIf_bind]
    by_cases hother : toString row.id = u.id
    · exact ⟨_, if_pos hother⟩
    rw [if_neg hother, raiseIf_bind]
    by_cases hrank : "super_admin" ∉ u.roles ∧ "super_admin" ∈ row.role :: row.roles
    · exact ⟨_, if_pos hrank⟩
    rw [if_neg hrank]
    rcases ok_or_error (UserRepository.deleteUser uid) d with ⟨o, hok⟩ | ⟨e, herr⟩
    · obtain ⟨hhead, hauthored⟩ := deleteUser_restricted hfound hok
      rw [hid] at hother
      refine absurd ⟨hadmin, ⟨row, hrow, hid, ?_⟩, hother, hhead, hauthored⟩ h
      by_cases hsuper : "super_admin" ∈ u.roles
      · exact .inl hsuper
      · exact .inr fun hin => hrank ⟨hsuper, hin⟩
    · rw [transaction_eq_error herr] at herr
      exact ⟨e, bind_eq_error.2 (.inl herr)⟩

/-! ## Refusing to remove classes -/

theorem reverts_deleteClass (u : List String) (cid : Nat) (c : Option Nat) :
    Reverts (TenantService.deleteClass u cid c) :=
  reverts_raiseIf_bind (reverts_bind_pure (reverts_transaction _))

theorem reverts_deleteLevel (u : List String) (lid : Nat) (c : Option Nat) :
    Reverts (TenantService.deleteLevel u lid c) :=
  reverts_raiseIf_bind (reverts_bind_pure (reverts_transaction _))

/-- A class on which something is enrolled is not deleted. -/
theorem deleteClass_unenrolled {u : List String} {cid : Nat} {c : Option Nat} {d d' : Db} {b : Bool}
    (h : TenantService.deleteClass u cid c d = .ok b d') : d.val.Unenrolled [cid] := by
  obtain ⟨_, t, hgate, h⟩ := bind_eq_ok.1 h
  obtain ⟨-, rfl⟩ := raiseIf_eq_ok.1 hgate
  obtain ⟨_, t, htrans, -⟩ := bind_eq_ok.1 h
  rw [transaction_eq_ok] at htrans
  simp only [query_bind] at htrans
  obtain ⟨_, t, hraise, h⟩ := bind_eq_ok.1 htrans
  obtain ⟨-, rfl⟩ := raiseIf_eq_ok.1 hraise
  obtain ⟨_, t, hremove, -⟩ := bind_eq_ok.1 h
  exact removeClasses_unenrolled hremove

/-- Nor is a level on one of whose classes something is enrolled. -/
theorem deleteLevel_unenrolled {u : List String} {lid : Nat} {c : Option Nat} {d d' : Db} {b : Bool}
    (h : TenantService.deleteLevel u lid c d = .ok b d') :
    d.val.Unenrolled (d.val.classesAt lid) := by
  obtain ⟨_, t, hgate, h⟩ := bind_eq_ok.1 h
  obtain ⟨-, rfl⟩ := raiseIf_eq_ok.1 hgate
  obtain ⟨_, t, htrans, -⟩ := bind_eq_ok.1 h
  rw [transaction_eq_ok] at htrans
  simp only [query_bind] at htrans
  obtain ⟨_, t, hraise, h⟩ := bind_eq_ok.1 htrans
  obtain ⟨-, rfl⟩ := raiseIf_eq_ok.1 hraise
  simp only [query_bind] at h
  obtain ⟨_, t, hremove, -⟩ := bind_eq_ok.1 h
  rcases onlyIf_eq_ok.1 hremove with ⟨-, hremove⟩ | ⟨hnil, -⟩
  · exact removeClasses_unenrolled hremove
  · unfold Tables.Unenrolled Tables.classesAt
    rw [not_not.1 hnil]
    simp

/-! ### The structure editor -/

section Deletions

variable [Unicode]

theorem reverts_saveAcademicStructure (u : List String) (p : StructureIn) (c : Option Nat) :
    Reverts (TenantService.saveAcademicStructure u p c) :=
  reverts_raiseIf_bind (reverts_query_bind fun _ => reverts_query_bind fun _ =>
    reverts_raiseIf_bind (reverts_transaction _))

/-- What the editor does before it comes to the levels. -/
def editorContext (p : StructureIn) (changedBy : Option Nat) : Prog SaveContext := do
  let activeYearId ← getActiveAcademicYearId
  saveSettings p
  saveBlackouts p
  let defaultTeacherId ← read firstTeacher
  return { activeYearId, defaultTeacherId, allIncoming := p.sectionIds, changedBy }

/-- What the editor does with one level, up to the classes that it removes. -/
def editorStale (ctx : SaveContext) (l : LevelIn) : Prog (List Nat) := do
  let lvlId ← saveLevel l
  let incoming ← l.sections.foldlM (saveSection ctx lvlId l) []
  read fun t => ((t.classes.filter fun c => c.levelId = lvlId).map ClassRow.id).filter fun id =>
    id ∉ incoming ∧ id ∉ ctx.allIncoming

theorem saveLevelAndSections_eq (ctx : SaveContext) (l : LevelIn) :
    saveLevelAndSections ctx l = editorStale ctx l >>= fun stale =>
      onlyIf (stale ≠ []) (removeClasses stale ctx.changedBy) := by
  unfold saveLevelAndSections editorStale
  simp only [bind_assoc]

theorem saveAcademicStructure_eq (p : StructureIn) (c : Option Nat) :
    saveAcademicStructure p c = transaction (editorContext p c >>= fun ctx =>
      p.levels.forM (saveLevelAndSections ctx)) := by
  unfold saveAcademicStructure editorContext
  simp only [bind_assoc, pure_bind]

/-- Run on `d`, the editor comes in `d'` to a level of which it is to remove the classes `stale`. -/
def EditorReaches (p : StructureIn) (c : Option Nat) (d : Db) (stale : List Nat) (d' : Db) : Prop :=
  ∃ ctx d₀ before l rest d₁, editorContext p c d = .ok ctx d₀ ∧ p.levels = before ++ l :: rest ∧
    before.forM (saveLevelAndSections ctx) d₀ = .ok ⟨⟩ d₁ ∧ editorStale ctx l d₁ = .ok stale d'

theorem EditorReaches.unenrolled {u : List String} {p : StructureIn} {c : Option Nat}
    {d d' d'' : Db} {stale : List Nat} {x : Unit} (hreach : EditorReaches p c d stale d')
    (h : TenantService.saveAcademicStructure u p c d = .ok x d'') : d'.val.Unenrolled stale := by
  obtain ⟨ctx, d₀, before, l, rest, d₁, hctx, hlevels, hbefore, hstale⟩ := hreach
  obtain ⟨_, t, hgate, h⟩ := bind_eq_ok.1 h
  obtain ⟨-, rfl⟩ := raiseIf_eq_ok.1 hgate
  simp only [query_bind] at h
  obtain ⟨_, t, hraise, h⟩ := bind_eq_ok.1 h
  obtain ⟨-, rfl⟩ := raiseIf_eq_ok.1 hraise
  rw [saveAcademicStructure_eq, transaction_eq_ok] at h
  obtain ⟨ctx', t, hctx', h⟩ := bind_eq_ok.1 h
  rw [hctx] at hctx'
  cases hctx'
  have hsplit : (before ++ l :: rest).forM (saveLevelAndSections ctx) =
      before.forM (saveLevelAndSections ctx) >>= fun _ =>
        (l :: rest).forM (saveLevelAndSections ctx) := List.forM_append
  rw [hlevels, hsplit] at h
  obtain ⟨⟨⟩, t, hbefore', h⟩ := bind_eq_ok.1 h
  rw [hbefore] at hbefore'
  cases hbefore'
  obtain ⟨⟨⟩, t, hlevel, -⟩ := bind_eq_ok.1 h
  rw [saveLevelAndSections_eq] at hlevel
  obtain ⟨stale', t, hstale', hremove⟩ := bind_eq_ok.1 hlevel
  rw [hstale] at hstale'
  cases hstale'
  rcases onlyIf_eq_ok.1 hremove with ⟨-, hremove⟩ | ⟨hnil, -⟩
  · exact removeClasses_unenrolled hremove
  · rw [not_not.1 hnil]
    simp [Tables.Unenrolled]

/-! ## Every deletion -/

/-- A paid payment hangs on what the operation is to delete. -/
def Deletion.Endangers (d : Db) : Deletion → Prop
  | .deleteEvent _ eid => d.val.PaidFor (ofEvent eid)
  | .deleteUser _ uid => d.val.PaidFor (d.val.ofUser uid)
  | .deleteClass _ cid _ => d.val.PaidFor (ofClasses [cid])
  | .deleteLevel _ lid _ => d.val.PaidFor (ofClasses (d.val.classesAt lid))
  | .saveAcademicStructure _ p c =>
    ∃ stale d', EditorReaches p c d stale d' ∧ d'.val.PaidFor (ofClasses stale)

/-- The operation keeps the paid payments, and is refused where it would have to remove one. -/
structure Deletion.Protects (d : Db) (op : Deletion) : Prop where
  kept : KeepsPaid d (op.step d)
  refused : op.Endangers d → ∃ e, op.program d = .error e d

/-- An event or a user on which a paid payment hangs is deleted by a caller who may. -/
def Deletion.Exposes (d : Db) : Deletion → Prop
  | .deleteEvent u eid => EventsRouter.isStaff u = true ∧ d.val.PaidFor (ofEvent eid)
  | .deleteUser u uid => UserDeletable d.val u uid ∧ d.val.PaidFor (d.val.ofUser uid)
  | _ => False

omit [Unicode] in
theorem event_of_paidFor {d : Db} {eid : Nat} (h : d.val.PaidFor (ofEvent eid)) :
    ∃ e ∈ d.val.events, e.id = eid := by
  obtain ⟨_, -, -, _, -, -, m, hm, -, hsel⟩ := h
  obtain ⟨e, he, hem⟩ := d.ok.events.event_class_event.exists_row hm rfl
  exact ⟨e, he, hem.trans hsel⟩

theorem step_refused {op : Deletion} {d : Db} (h : ∃ e, op.program d = .error e d) :
    op.step d = d := by
  obtain ⟨e, h⟩ := h
  exact after_error h

/-- A refused operation protects, whatever hangs on what it was to delete. -/
theorem protects_of_refused {op : Deletion} {d : Db} (h : ∃ e, op.program d = .error e d) :
    op.Protects d := by
  refine ⟨?_, fun _ => h⟩
  rw [step_refused h]
  exact refl_of KeepsPaid d

/-- An operation that was not refused protects exactly when nothing paid hung on what it deleted. -/
theorem protects_of_removes {op : Deletion} {d d' : Db} {u : Unit}
    {sel : EnrollmentRow → EventClassRow → Prop} (hok : op.program d = .ok u d')
    (hrem : Removes sel d d') (hend : op.Endangers d → d.val.PaidFor sel) :
    op.Protects d ↔ ¬d.val.PaidFor sel := by
  have hstep : op.step d = d' := after_ok hok
  constructor
  · intro h
    exact hrem.keepsPaid_iff.1 (hstep ▸ h.kept)
  · intro hnone
    exact ⟨hstep ▸ hrem.keepsPaid_iff.2 hnone, fun h => absurd (hend h) hnone⟩

/-- An operation that keeps every payment, and whose return rules out that something is enrolled on
what it deleted. -/
theorem protects_of_reverts {op : Deletion} {d : Db} (hrev : Reverts op.program)
    (hkept : (op.step d).val.payments = d.val.payments)
    (hok : op.Endangers d → ∀ u d', op.program d ≠ .ok u d') : op.Protects d :=
  ⟨keepsPaid_of_eq hkept, fun h => hrev.refused (hok h)⟩

/-- **Which deletions protect the paid payments.** -/
theorem protects_iff (d : Db) (op : Deletion) : op.Protects d ↔ ¬op.Exposes d := by
  cases op with
  | deleteEvent u eid =>
    by_cases h : EventDeletable d.val u eid
    · obtain ⟨d', hok, hval⟩ := deleteEvent_ok h
      have hok : Deletion.program (.deleteEvent u eid) d = .ok () d' := hok
      rw [protects_of_removes hok (removes_deleteEvents hval) fun h => h]
      exact not_congr (and_iff_right h.1).symm
    · refine iff_of_true (protects_of_refused (deleteEvent_error h)) fun hexposes => ?_
      exact h ⟨hexposes.1, event_of_paidFor hexposes.2⟩
  | deleteUser u uid =>
    by_cases h : UserDeletable d.val u uid
    · obtain ⟨row, d', hok, hval⟩ := deleteUser_ok h
      have hok : Deletion.program (.deleteUser u uid) d = .ok () d' := map_eq_ok.2 ⟨row, hok, rfl⟩
      rw [protects_of_removes hok (removes_deleteUser hval) fun h => h]
      exact not_congr (and_iff_right h).symm
    · refine iff_of_true (protects_of_refused ?_) fun hexposes => h hexposes.1
      obtain ⟨e, herr⟩ := deleteUser_error h
      exact ⟨e, map_eq_error.2 herr⟩
  | deleteClass u cid c =>
    refine iff_of_true (protects_of_reverts (reverts_map (reverts_deleteClass u cid c)) ?_ ?_) id
    · have hediting : (Op.deleteClass u cid c).isEditing = true := rfl
      exact payments_editable.step hediting (fun _ _ _ h => by cases h) d
    · intro hpaid x d' hok
      obtain ⟨b, hok, -⟩ := map_eq_ok.1 hok
      exact not_unenrolled hpaid (deleteClass_unenrolled hok)
  | deleteLevel u lid c =>
    refine iff_of_true (protects_of_reverts (reverts_map (reverts_deleteLevel u lid c)) ?_ ?_) id
    · have hediting : (Op.deleteLevel u lid c).isEditing = true := rfl
      exact payments_editable.step hediting (fun _ _ _ _ => moves_exec fun _ _ => rfl) d
    · intro hpaid x d' hok
      obtain ⟨b, hok, -⟩ := map_eq_ok.1 hok
      exact not_unenrolled hpaid (deleteLevel_unenrolled hok)
  | saveAcademicStructure u p c =>
    refine iff_of_true (protects_of_reverts (reverts_saveAcademicStructure u p c) ?_ ?_) id
    · have hediting : (Op.saveAcademicStructure u p c).isEditing = true := rfl
      exact payments_editable.step hediting (fun _ _ _ h => by cases h) d
    · rintro ⟨stale, d₁, hreach, hpaid⟩ x d' hok
      exact not_unenrolled hpaid (hreach.unenrolled hok)

/-- **Paid payments are kept exactly by the runs that delete no event and no user on whom one
hangs.** Every step of a run protects the paid payments if and only if no step of it deletes such
an event or user by a caller who may; in those runs no paid payment is ever lost. -/
theorem paid_payments_kept (d : Db) (ops : List Deletion) :
    (EachStep Deletion.step (fun d op => op.Protects d) d ops ↔
      EachStep Deletion.step (fun d op => ¬op.Exposes d) d ops) ∧
    (EachStep Deletion.step (fun d op => ¬op.Exposes d) d ops →
      KeepsPaid d (run Deletion.step d ops)) := by
  refine ⟨⟨.mono fun d op => (protects_iff d op).1, .mono fun d op => (protects_iff d op).2⟩, ?_⟩
  intro hsafe
  refine run_inv (I := KeepsPaid d) (fun d' op hkept hop => ?_) (refl_of _ d) hsafe
  exact trans_of KeepsPaid hkept ((protects_iff d' op).2 hop).kept

end Deletions

/-! ## An event with a paid payment -/

def museumPayment : PaymentRow where
  id := 1
  enrollmentId := 1
  amount := 50000
  status := .paid
  currency := some "USD"

/-- The small school with one event that its teacher created: the student is enrolled and has
paid. -/
def tripSchool : Db where
  val := { smallSchoolTables with
    events := [{ id := 1, title := "Museum", date := 0, createdBy := 2, createdAt := 0 }]
    eventClasses := [{ id := 1, eventId := 1, classId := 1 }]
    enrollments := [{ id := 1, studentId := 1, eventClassMapId := 1, state := .approvedByTeacher }]
    payments := [museumPayment] }
  ok := by decide +kernel

def teacher : Authz.CurrentUser where
  id := "2"
  tenantId := some "school"
  role := "teacher"
  email := "t@school"
  roles := ["teacher"]

/-- The teacher deletes the event, and the paid payment goes with it. -/
theorem paid_payment_deleted :
    ¬EachStep (@Deletion.step ascii) (fun d op => @Deletion.Protects ascii d op) tripSchool
      [.deleteEvent teacher 1] := by
  rintro ⟨⟨hkept, -⟩, -⟩
  have hpaid : museumPayment ∈ tripSchool.val.payments := by decide
  have hgone : museumPayment ∉
      (@Deletion.step ascii tripSchool (.deleteEvent teacher 1)).val.payments := by decide +kernel
  exact hgone (hkept _ hpaid rfl)

end Sams.School
