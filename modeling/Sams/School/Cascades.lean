import Sams.School.Deletions

/-!
# Cascades keep the constraints

A `DELETE` whose cascades remove or null every reference to the deleted rows leaves tables that
satisfy the schema. So the deletion of events is never refused, and the deletion of a user is
refused exactly for what restricts it: a class the user heads and a resource the user wrote.
-/

namespace Sams.School

open Programs Rows

namespace Tables

variable {t : Tables}

/-- A check of every row outlives a deletion. -/
theorem forall_mem_filter {α : Type} {P : α → Prop} {l : List α} (h : ∀ x ∈ l, P x)
    (p : α → Bool) : ∀ x ∈ l.filter p, P x :=
  fun x hx => h x (List.mem_of_mem_filter hx)

theorem ok_deleteEnrollments (h : t.Ok) (p : EnrollmentRow → Bool) :
    (t.deleteEnrollments p).Ok := by
  obtain ⟨hkeys, hunique, hchecks, hplacements, hrollovers, hevents, hcontacts⟩ := h
  exact ⟨{ hkeys with
      enrollments := hkeys.enrollments.filter _
      payments := hkeys.payments.filter _ },
    { hunique with enrollment := hunique.enrollment.filter _ },
    { hchecks with
      payment_amount := forall_mem_filter hchecks.payment_amount _
      payment_currency := forall_mem_filter hchecks.payment_currency _ },
    { hplacements with },
    { hrollovers with
      enrollment_student := hrollovers.enrollment_student.filter_left _
      enrollment_event_class := hrollovers.enrollment_event_class.filter_left _ },
    { hevents with payment_enrollment := hevents.payment_enrollment.cascade_any p },
    { hcontacts with
      enrollment_teacher := hcontacts.enrollment_teacher.filter_left _
      enrollment_parent := hcontacts.enrollment_parent.filter_left _ }⟩

theorem ok_deleteEventClasses (h : t.Ok) (p : EventClassRow → Bool) :
    (t.deleteEventClasses p).Ok := by
  have hcascade := h.rollovers.enrollment_event_class.cascade_any p
  obtain ⟨hkeys, hunique, hchecks, hplacements, hrollovers, hevents, hcontacts⟩ :=
    ok_deleteEnrollments h fun n => t.eventClasses.any fun e => p e ∧ e.id = n.eventClassMapId
  exact ⟨{ hkeys with eventClasses := hkeys.eventClasses.filter _ }, { hunique with },
    { hchecks with ticket_price := forall_mem_filter hchecks.ticket_price _ },
    { hplacements with },
    { hrollovers with
      event_class_class := hrollovers.event_class_class.filter_left _
      enrollment_event_class := hcascade },
    { hevents with event_class_event := hevents.event_class_event.filter_left _ },
    { hcontacts with }⟩

theorem ok_deleteEvents (h : t.Ok) (p : EventRow → Bool) : (t.deleteEvents p).Ok := by
  have hmaps := h.events.event_class_event.cascade_any p
  have hresources := h.events.resource_event.cascade_any p
  have hnotifications := h.contacts.notification_event.cascade_any p
  have hcosts : Refers (fun c => some c.eventId) EventRow.id (t.deleteEvents p).resourceCosts
      (t.deleteEvents p).events := by
    apply h.events.cost_event.cascade
    intro c _ e he hce hkeep
    simp only [Option.some.injEq] at hce
    simp only [decide_eq_true_eq, not_or, List.any_eq_true, not_exists, not_and] at hkeep ⊢
    exact fun hp => hkeep.1 e he hp hce.symm
  have hcosts' : Refers (fun c => some c.resourceId) ResourceRow.id
      (t.deleteEvents p).resourceCosts (t.deleteEvents p).resources := by
    apply h.events.cost_resource.cascade
    intro c _ r hr hcr hkeep
    simp only [Option.some.injEq] at hcr
    simp only [decide_eq_true_eq, not_or, List.any_eq_true, not_exists, not_and] at hkeep ⊢
    exact fun e he hp hre => hkeep.2 r hr ⟨e, he, hp, hre⟩ hcr.symm
  obtain ⟨hkeys, hunique, hchecks, hplacements, hrollovers, hevents, hcontacts⟩ :=
    ok_deleteEventClasses h fun m => t.events.any fun e => p e ∧ e.id = m.eventId
  exact ⟨{ hkeys with
      events := hkeys.events.filter _
      resources := hkeys.resources.filter _
      resourceCosts := hkeys.resourceCosts.filter _
      notifications := hkeys.notifications.filter _ },
    { hunique with resource_cost := hunique.resource_cost.filter _ },
    { hchecks with
      event_amounts := forall_mem_filter hchecks.event_amounts _
      event_predicted_attendance := forall_mem_filter hchecks.event_predicted_attendance _
      notification_title := forall_mem_filter hchecks.notification_title _ },
    { hplacements with }, { hrollovers with },
    { hevents with
      event_created_by := hevents.event_created_by.filter_left _
      event_manager_reviewer := hevents.event_manager_reviewer.filter_left _
      event_finance_reviewer := hevents.event_finance_reviewer.filter_left _
      event_class_event := hmaps
      resource_event := hresources
      resource_added_by := hevents.resource_added_by.filter_left _
      resource_updated_by := hevents.resource_updated_by.filter_left _
      cost_event := hcosts
      cost_resource := hcosts'
      cost_set_by := hevents.cost_set_by.filter_left _ },
    { hcontacts with
      notification_event := hnotifications
      notification_recipient := hcontacts.notification_recipient.filter_left _ }⟩

theorem ok_deleteStudents (h : t.Ok) (p : StudentRow → Bool) : (t.deleteStudents p).Ok := by
  have henrollments := h.rollovers.enrollment_student.cascade_any p
  have hhistory := h.placements.history_student.cascade_any p
  have hlines := h.rollovers.line_student.cascade_any p
  have hparents := h.contacts.map_student.cascade_any p
  obtain ⟨hkeys, hunique, hchecks, hplacements, hrollovers, hevents, hcontacts⟩ :=
    ok_deleteEnrollments h fun n => t.students.any fun s => p s ∧ s.id = n.studentId
  exact ⟨{ hkeys with
      students := hkeys.students.filter _
      history := hkeys.history.filter _
      lines := hkeys.lines.filter _
      studentParents := hkeys.studentParents.filter _ },
    { hunique with line_student := hunique.line_student.filter _ },
    { hchecks with line_proposed_action := forall_mem_filter hchecks.line_proposed_action _ },
    { hplacements with
      student_user := hplacements.student_user.filter_left _
      student_class := hplacements.student_class.filter_left _
      history_student := hhistory
      history_old_class := hplacements.history_old_class.filter_left _
      history_new_class := hplacements.history_new_class.filter_left _
      history_changed_by := hplacements.history_changed_by.filter_left _ },
    { hrollovers with
      line_rollover := hrollovers.line_rollover.filter_left _
      line_student := hlines
      line_from_class := hrollovers.line_from_class.filter_left _
      line_to_level := hrollovers.line_to_level.filter_left _
      line_to_class := hrollovers.line_to_class.filter_left _
      enrollment_student := henrollments },
    { hevents with },
    { hcontacts with
      map_student := hparents
      map_parent := hcontacts.map_parent.filter_left _ }⟩

theorem setNull_eq_some {gone : Nat → Bool} {k : Option Nat} {id : Nat} :
    setNull gone k = some id ↔ k = some id ∧ gone id = false := by
  simp [setNull]

/-- A reference that is nulled where it names the deleted row. -/
theorem refers_setNull {α β : Type} {f : α → Option Nat} {key : β → Nat} {l : List α} {us : List β}
    (h : Refers f key l us) (uid : Nat) {g : α → α}
    (hg : ∀ x, f (g x) = setNull (fun id => id = uid) (f x)) :
    Refers f key (l.map g) (us.filter fun u => key u ≠ uid) := by
  apply h.map_left
  · intro x _ u hu hx
    rw [hg, setNull_eq_some] at hx
    exact List.mem_filter.2 ⟨hu, by simpa using hx.2⟩
  · intro x _ k hx
    rw [hg, setNull_eq_some] at hx
    exact hx.1

/-- Nothing that restricts the deletion of a user names them. -/
structure Unrestricted (t : Tables) (uid : Nat) : Prop where
  head_teacher : ∀ c ∈ t.classes, c.headTeacherId ≠ some uid
  reviewers : ∀ e ∈ t.events, e.managerReviewerId ≠ some uid ∧ e.financeReviewerId ≠ some uid
  authored : t.authored uid = false

theorem not_authored {uid : Nat} (h : t.authored uid = false) :
    (∀ r ∈ t.resources, r.addedByUserId ≠ uid ∧ r.updatedByUserId ≠ some uid) ∧
      ∀ c ∈ t.resourceCosts, c.setByUserId ≠ uid := by
  simpa [authored] using h

theorem ok_deleteUser (h : t.Ok) {uid : Nat} (hu : t.Unrestricted uid) : (t.deleteUser uid).Ok := by
  obtain ⟨hresources, hcosts⟩ := not_authored hu.authored
  obtain ⟨hkeys, hunique, hchecks, hplacements, hrollovers, hevents, hcontacts⟩ :=
    ok_deleteEvents (ok_deleteStudents h fun s => s.id = uid) fun e => e.createdBy = uid
  -- a reference that does not name the user outlives them
  have hother : ∀ {α : Type} {f : α → Option Nat} {l : List α},
      Refers f UserRow.id l t.users → (∀ x ∈ l, f x ≠ some uid) →
        Refers f UserRow.id l (t.users.filter fun u => u.id ≠ uid) := by
    intro α f l href hne
    apply href.filter_right
    intro x hx u _ hxu
    simp only [ne_eq, decide_not, Bool.not_eq_true', decide_eq_false_iff_not]
    intro he
    rw [he] at hxu
    exact hne x hx hxu
  -- and one that names the user is gone with its row
  have hgone : ∀ {α β : Type} {f : α → Nat} {key : β → Nat} {l : List α} {us : List β},
      Refers (fun x => some (f x)) key l us →
        Refers (fun x => some (f x)) key (l.filter fun x => f x ≠ uid)
          (us.filter fun u => key u ≠ uid) := by
    intro α β f key l us href
    apply href.cascade
    intro x _ u _ hxu hkeep
    simp only [Option.some.injEq] at hxu
    simpa [hxu] using hkeep
  refine ⟨{ hkeys with
      users := hkeys.users.filter _
      teachers := hkeys.teachers.filter _
      history := hkeys.history.map fun _ => rfl
      rollovers := hkeys.rollovers.map fun _ => rfl
      parents := hkeys.parents.filter _
      studentParents := hkeys.studentParents.filter _
      enrollments := hkeys.enrollments.map fun _ => rfl
      notifications := hkeys.notifications.filter _
      auditLog := hkeys.auditLog.map fun _ => rfl },
    { hunique with
      rollover_years := hunique.rollover_years.map fun _ => rfl
      enrollment := hunique.enrollment.map fun _ => rfl },
    { hchecks with
      users_role_check := forall_mem_filter hchecks.users_role_check _
      notification_title := forall_mem_filter hchecks.notification_title _ },
    { hplacements with
      teacher_user := hgone hplacements.teacher_user
      class_head_teacher := hplacements.class_head_teacher.filter_right ?_
      student_user := hother hplacements.student_user ?_
      history_student := hplacements.history_student.map_same fun _ => rfl
      history_old_class := hplacements.history_old_class.map_same fun _ => rfl
      history_new_class := hplacements.history_new_class.map_same fun _ => rfl
      history_changed_by := refers_setNull hplacements.history_changed_by uid fun _ => rfl },
    { hrollovers with
      rollover_from_year := hrollovers.rollover_from_year.map_same fun _ => rfl
      rollover_to_year := hrollovers.rollover_to_year.map_same fun _ => rfl
      rollover_created_by := refers_setNull hrollovers.rollover_created_by uid fun _ => rfl
      line_rollover := hrollovers.line_rollover.map_right fun _ => rfl
      enrollment_student := hrollovers.enrollment_student.map_same fun _ => rfl
      enrollment_event_class := hrollovers.enrollment_event_class.map_same fun _ => rfl },
    { hevents with
      event_created_by := hother hevents.event_created_by ?_
      event_manager_reviewer := hother hevents.event_manager_reviewer ?_
      event_finance_reviewer := hother hevents.event_finance_reviewer ?_
      resource_added_by := hother hevents.resource_added_by ?_
      resource_updated_by := hother hevents.resource_updated_by ?_
      payment_enrollment := hevents.payment_enrollment.map_right fun _ => rfl
      cost_set_by := hother hevents.cost_set_by ?_ },
    { hcontacts with
      parent_user := hgone hcontacts.parent_user
      map_student := hcontacts.map_student.filter_left _
      map_parent := hgone hcontacts.map_parent
      enrollment_teacher := refers_setNull hcontacts.enrollment_teacher uid fun _ => rfl
      enrollment_parent := refers_setNull hcontacts.enrollment_parent uid fun _ => rfl
      notification_event := hcontacts.notification_event.filter_left _
      notification_recipient := hgone hcontacts.notification_recipient
      audit_actor := refers_setNull hcontacts.audit_actor uid fun _ => rfl }⟩
  · intro c hc x _ hcx
    simp only [ne_eq, decide_not, Bool.not_eq_true', decide_eq_false_iff_not]
    intro he
    rw [he] at hcx
    exact hu.head_teacher c hc hcx
  · intro s hs
    have hs := (List.mem_filter.1 hs).2
    simpa using hs
  · intro e he
    have he := (List.mem_filter.1 he).2
    simpa using he
  · exact fun e he => (hu.reviewers e (List.mem_of_mem_filter he)).1
  · exact fun e he => (hu.reviewers e (List.mem_of_mem_filter he)).2
  · intro r hr
    simpa using (hresources r (List.mem_of_mem_filter hr)).1
  · exact fun r hr => (hresources r (List.mem_of_mem_filter hr)).2
  · intro c hc
    simpa using hcosts c (List.mem_of_mem_filter hc)

end Tables

end Sams.School
