import Sams.Trips.Subsidies
import Sams.Trips.Twins

/-!
# What the event routes tell about the amounts

Every request on events goes the same way in two states that differ in the amounts only, when its
actor may not set them: it returns in both, or it fails in both with the same error, and the events
that it has read differ in the amounts only. The routes that hide the amounts then answer the same.
-/

namespace Sams.Trips

open School Programs Rows Runs Interleaving TenantRepository TenantService

/-! ## The workflow -/

theorem twin_getPredictedAttendance (classIds : List Nat) :
    (getPredictedAttendance classIds).Twin SamePublic (· = ·)
      (getPredictedAttendance classIds) := by
  unfold getPredictedAttendance
  refine Proc.twin_ite (fun _ => Proc.twin_ret rfl) fun _ => ?_
  have hcount := twin_look_public (f := fun t => getStudentCountForClasses t classIds) fun _ => rfl
  exact Proc.twin_bind_eq hcount fun _ => Proc.twin_ret rfl

theorem twin_predicted (classIds : List Nat) :
    (predicted classIds).Twin SamePublic (· = ·) (predicted classIds) := by
  unfold predicted
  refine Proc.twin_ite (fun _ => Proc.twin_ret rfl) fun _ => ?_
  exact Proc.twin_map (twin_getPredictedAttendance classIds) fun n n' h => by rw [h]

section Transitions

variable (eventId : Nat) (event : Event)

theorem twin_announceAll (studentTitle parentTitle : String) :
    (announceAll eventId event studentTitle parentTitle).Twin SamePublic (· = ·)
      (announceAll eventId event studentTitle parentTitle) := by
  have hannounce : ∀ r title, (announce eventId event r title).Twin SamePublic (· = ·)
      (announce eventId event r title) := fun r title =>
    Proc.twin_marked (paired_createNotification r (some title))
  unfold announceAll
  refine Proc.twin_ite (fun _ => Proc.twin_ret rfl) fun _ => ?_
  have hstudents := twin_look_public
    (f := fun t => getStudentsInClasses t (event.classMappings.map ClassMapping.classId)) fun _ =>
      rfl
  refine Proc.twin_bind_eq hstudents fun students => Proc.twin_forM fun s _ => ?_
  refine Proc.twin_bind_eq (hannounce _ _) fun _ => ?_
  have hparents := twin_look_public (f := fun t => getParentsOf t s) fun _ => rfl
  exact Proc.twin_bind_eq hparents fun parents => Proc.twin_forM fun p _ => hannounce _ _

theorem twin_submitEffects (next : EventStatus) (now : Timestamp) :
    (submitEffects eventId event next now).Twin SamePublic (· = ·)
      (submitEffects eventId event next now) := by
  unfold submitEffects
  refine Proc.twin_bind_eq (twin_predicted _) fun predictedAttendance => ?_
  refine Proc.twin_bind_eq (twin_look_public (f := getAllManagers) fun _ => rfl) fun managers => ?_
  refine Proc.twin_bind_eq (Proc.twin_forM fun m _ => ?_) fun _ => Proc.twin_ret rfl
  exact Proc.twin_once (paired_createNotification m _)

theorem twin_effects (next : EventStatus) (action : EventAction) (actor : Actor)
    (reason : Option String) (now : Timestamp) :
    (effects eventId event next action actor reason now).Twin SamePublic (· = ·)
      (effects eventId event next action actor reason now) := by
  unfold effects
  refine Proc.twin_ite (fun _ => twin_submitEffects eventId event next now) fun _ => ?_
  refine Proc.twin_ite (fun _ => ?_) fun _ => Proc.twin_ite (fun _ => ?_) fun _ =>
    Proc.twin_ite (fun _ => ?_) fun _ => Proc.twin_ite (fun _ => ?_) fun _ => Proc.twin_ret rfl
  · exact Proc.twin_bind_eq (Proc.twin_once (paired_createNotification _ _)) fun _ =>
      Proc.twin_ret rfl
  · exact Proc.twin_bind_eq (Proc.twin_once (paired_createNotification _ _)) fun _ =>
      Proc.twin_ret rfl
  · exact Proc.twin_bind_eq (twin_announceAll eventId event _ _) fun _ => Proc.twin_ret rfl
  · exact Proc.twin_bind_eq (twin_announceAll eventId event _ _) fun _ => Proc.twin_ret rfl

theorem twin_checkPreconditions (action : EventAction) (actor : Actor) (reason : Option String) :
    (checkPreconditions event action actor reason).Twin SamePublic (· = ·)
      (checkPreconditions event action actor reason) := by
  unfold checkPreconditions
  refine Proc.twin_ite (fun _ => ?_) fun _ => Proc.twin_ite (fun _ => ?_) fun _ => Proc.twin_ret rfl
  · refine Proc.twin_bind_eq (twin_ofExcept _) fun actorId => ?_
    exact Proc.twin_bind_eq (Proc.twin_failIf Iff.rfl) fun _ => Proc.twin_failIf Iff.rfl
  · exact Proc.twin_failIf Iff.rfl

end Transitions

theorem twin_transitionEvent (eventId : Nat) (action : EventAction) (actor : Actor)
    (reason : Option String) (now : Timestamp) :
    (transitionEvent eventId action actor reason now).Twin SamePublic (Option.Rel Alike)
      (transitionEvent eventId action actor reason now) := by
  unfold transitionEvent
  refine twin_getEventById_bind (Proc.twin_fail _) fun event event' h => ?_
  obtain ⟨subsidy, cost, rfl⟩ := h.exists_amounts
  dsimp only
  cases transitions event.row.status action with
  | none => exact Proc.twin_fail _
  | some target =>
    obtain ⟨next, role⟩ := target
    refine Proc.twin_bind_eq (Proc.twin_failIf Iff.rfl) fun _ => ?_
    refine Proc.twin_bind_eq (twin_checkPreconditions event action actor reason) fun _ => ?_
    refine Proc.twin_bind_eq (twin_effects eventId event next action actor reason now)
      fun fields => ?_
    exact Proc.twin_bind_eq (Proc.twin_marked (paired_updateEventStatus fields)) fun _ =>
      twin_getEventById eventId

/-- The answers are there or missing in both, whatever they say. -/
abbrev Answered {α : Type} (_ _ : α) : Prop := True

theorem twin_respond {event event' : Option Event} (h : Option.Rel Alike event event') :
    (respond event).Twin SamePublic Answered (respond event') := by
  cases h with
  | none => exact Proc.twin_fail _
  | some h => exact Proc.twin_ret trivial

section Routes

variable (actor : Actor) (eventId : Nat) (now : Timestamp)

theorem twin_submitEvent : (EventsRouter.submitEvent actor eventId now).Twin SamePublic Answered
    (EventsRouter.submitEvent actor eventId now) := by
  unfold EventsRouter.submitEvent EventsRouter.requireTenant
  refine Proc.twin_bind_eq (Proc.twin_failIf Iff.rfl) fun _ => Proc.Twin.wrap ?_ _
  refine twin_getEventById_bind (Proc.twin_fail _) fun event event' h => ?_
  obtain ⟨subsidy, cost, rfl⟩ := h.exists_amounts
  refine Proc.twin_bind_eq (twin_ofExcept _) fun action => ?_
  exact Proc.twin_bind (twin_transitionEvent eventId action actor none now) fun _ _ => twin_respond

theorem twin_managerDecision (decision : Decision) (reason : Option String) :
    (EventsRouter.managerDecision actor eventId decision reason now).Twin SamePublic Answered
      (EventsRouter.managerDecision actor eventId decision reason now) := by
  unfold EventsRouter.managerDecision EventsRouter.requireTenant
  refine Proc.twin_bind_eq (Proc.twin_failIf Iff.rfl) fun _ => Proc.Twin.wrap ?_ _
  exact Proc.twin_bind (twin_transitionEvent _ _ _ _ _) fun _ _ => twin_respond

theorem twin_teacherPublishEvent :
    (EventsRouter.teacherPublishEvent actor eventId now).Twin SamePublic Answered
      (EventsRouter.teacherPublishEvent actor eventId now) := by
  unfold EventsRouter.teacherPublishEvent EventsRouter.requireTenant
  refine Proc.twin_bind_eq (Proc.twin_failIf Iff.rfl) fun _ =>
    Proc.twin_bind_eq (Proc.twin_failIf Iff.rfl) fun _ => Proc.Twin.wrap ?_ _
  exact Proc.twin_bind (twin_transitionEvent _ _ _ _ _) fun _ _ => twin_respond

theorem twin_eventTeacherDecision (decision : Decision) (reason : Option String) :
    (EventsRouter.eventTeacherDecision actor eventId decision reason now).Twin SamePublic Answered
      (EventsRouter.eventTeacherDecision actor eventId decision reason now) := by
  unfold EventsRouter.eventTeacherDecision EventsRouter.requireTenant
  refine Proc.twin_bind_eq (Proc.twin_failIf Iff.rfl) fun _ => Proc.Twin.wrap ?_ _
  refine Proc.twin_bind_eq (Proc.twin_failIf Iff.rfl) fun _ => ?_
  exact Proc.twin_bind (twin_transitionEvent _ _ _ _ _) fun _ _ => twin_respond

end Routes

/-! ## Editing -/

section Editing

variable {actor : Actor}

theorem not_privileged (h : ¬MaySet actor) : ¬actor.isOneOf EventService.privileged = true :=
  fun hprivileged => h (maySet_of_privileged hprivileged)

/-- Only what is in range is read, and written back. -/
theorem Alike.numeric {event event' : Event} (h : Alike event event') :
    Numeric event.row.schoolSubsidy ∧ Numeric event'.row.schoolSubsidy :=
  ⟨h.rows.priced _ List.mem_cons_self, h.rows.priced' _ List.mem_cons_self⟩

theorem twin_ownMappings (eventId : Nat) (mappings : List ClassMappingRequest)
    (userRole : List String) (userId : ParsedId) :
    (ownMappings eventId mappings userRole userId).Twin SamePublic (· = ·)
      (ownMappings eventId mappings userRole userId) := by
  unfold ownMappings
  refine Proc.twin_ite (fun _ => Proc.twin_ret rfl) fun _ => Proc.twin_ite (fun _ => ?_) fun _ =>
    Proc.twin_fail _
  refine Proc.twin_bind_eq (twin_ofExcept _) fun userId => ?_
  have hclasses := twin_look_public (f := fun t => getClassesByHeadTeacher t userId) fun _ => rfl
  refine Proc.twin_bind_eq hclasses fun classes => ?_
  refine Proc.twin_bind_eq (Proc.twin_failIf Iff.rfl) fun _ => ?_
  refine twin_getEventById_bind (Proc.twin_fail _) fun event event' h => ?_
  obtain ⟨subsidy, cost, rfl⟩ := h.exists_amounts
  exact Proc.twin_bind_eq (Proc.twin_failIf Iff.rfl) fun _ => Proc.twin_ret rfl

theorem twin_updateEventFull {mark mark' : Mark} {eventId : Nat} {fields fields' : EventFields}
    (h : AlikeFields fields fields') (mappings : List ClassMappingRequest) :
    (TenantRepository.updateEventFull mark eventId fields mappings).Twin SamePublic
      (Option.Rel Alike) (TenantRepository.updateEventFull mark' eventId fields' mappings) :=
  Proc.twin_bind_eq (Proc.twin_marked (paired_setFieldsAndClasses h mappings)) fun _ =>
    twin_getEventById eventId

theorem twin_updateEvent (h : ¬MaySet actor) (eventId : Nat) (payload : EventCreateRequest) :
    (EventsRouter.updateEvent actor eventId payload).Twin SamePublic Answered
      (EventsRouter.updateEvent actor eventId payload) := by
  unfold EventsRouter.updateEvent
  refine Proc.twin_bind_eq (Proc.twin_failIf Iff.rfl) fun _ => Proc.Twin.wrap ?_ _
  refine twin_getEventById_bind (Proc.twin_fail _) fun event event' hevent => ?_
  have hnumeric := hevent.numeric
  obtain ⟨subsidy, cost, rfl⟩ := hevent.exists_amounts
  have heditable : (EventService.requireEditable actor event.row).Twin SamePublic (· = ·)
      (EventService.requireEditable actor event.row) :=
    Proc.twin_bind_eq (twin_ofExcept _) fun _ => Proc.twin_failIf Iff.rfl
  refine Proc.twin_bind_eq heditable fun _ => ?_
  simp only [EventService.resolveSubsidy, if_neg (not_privileged h)]
  have hfields : AlikeFields (payload.fields event.row.schoolSubsidy) (payload.fields subsidy) :=
    ⟨rfl, hnumeric.1, hnumeric.2⟩
  refine Proc.twin_bind (P := Answered) ?_ fun _ _ _ => Proc.twin_ret trivial
  unfold TenantService.updateEventFull
  refine Proc.twin_bind_eq (twin_ownMappings _ _ _ _) fun mappings => ?_
  refine Proc.twin_bind (twin_updateEventFull hfields mappings) fun row row' hrow => ?_
  cases hrow with
  | none => exact Proc.twin_fail _
  | some _ => exact Proc.twin_ret trivial

theorem alikeFields_patched {event event' : Event} (h : Alike event event')
    (payload : EventPatchRequest) : AlikeFields (EventsRouter.patchedFields event.row payload)
      (EventsRouter.patchedFields event'.row payload) := by
  have hnumeric := h.numeric
  obtain ⟨subsidy, cost, rfl⟩ := h.exists_amounts
  exact ⟨rfl, hnumeric.1, hnumeric.2⟩

theorem twin_patchEvent (actor : Actor) (eventId : Nat) (payload : EventPatchRequest) :
    (EventsRouter.patchEvent actor eventId payload).Twin SamePublic Answered
      (EventsRouter.patchEvent actor eventId payload) := by
  unfold EventsRouter.patchEvent EventsRouter.requireTenant
  refine Proc.twin_bind_eq (Proc.twin_failIf Iff.rfl) fun _ => Proc.Twin.wrap ?_ _
  refine twin_getEventById_bind (Proc.twin_fail _) fun event event' hevent => ?_
  have hfields := alikeFields_patched hevent payload
  obtain ⟨subsidy, cost, rfl⟩ := hevent.exists_amounts
  refine Proc.twin_bind_eq (twin_ofExcept _) fun editable => ?_
  refine Proc.twin_bind_eq (Proc.twin_failIf Iff.rfl) fun _ => ?_
  refine Proc.twin_bind (Proc.twin_marked (paired_updateEvent hfields)) fun row row' hrow => ?_
  cases hrow with
  | none => exact Proc.twin_fail _
  | some _ => exact Proc.twin_ret trivial

/-- The answer to an audience is the attendance, which is the same. -/
theorem twin_selectAudience (actor : Actor) (eventId : Nat) (payload : AudienceSelect) :
    (EventsRouter.selectAudience actor eventId payload).Twin SamePublic (· = ·)
      (EventsRouter.selectAudience actor eventId payload) := by
  unfold EventsRouter.selectAudience EventsRouter.requireTenant
  refine Proc.twin_bind_eq (Proc.twin_failIf Iff.rfl) fun _ => Proc.Twin.wrap ?_ _
  refine twin_getEventById_bind (Proc.twin_fail _) fun event event' hevent => ?_
  have hfields := alikeFields_patched hevent {}
  obtain ⟨subsidy, cost, rfl⟩ := hevent.exists_amounts
  refine Proc.twin_bind_eq (twin_ofExcept _) fun editable => ?_
  refine Proc.twin_bind_eq (Proc.twin_failIf Iff.rfl) fun _ => ?_
  exact Proc.twin_bind (twin_updateEventFull hfields _) fun _ _ _ =>
    twin_getPredictedAttendance _

end Editing

/-! ## Creating and cloning -/

section Creating

variable {fields fields' : EventFields}

theorem twin_createEvent (h : AlikeFields fields fields') (createdBy : ParsedId)
    (mappings : List ClassMappingRequest) (userRole : List String) (now : Timestamp) :
    (TenantService.createEvent fields createdBy mappings userRole now).Twin SamePublic
      (Option.Rel Alike)
      (TenantService.createEvent fields' createdBy mappings userRole now) := by
  unfold TenantService.createEvent TenantRepository.createEvent
  refine Proc.twin_bind_eq (Proc.twin_failIf Iff.rfl) fun _ => ?_
  refine Proc.twin_bind (P := Option.Rel Alike) ?_ fun event event' hevent => ?_
  · refine Proc.twin_bind_eq (twin_ofExcept _) fun createdBy => ?_
    exact Proc.twin_bind_eq (Proc.twin_once (paired_insertWithClasses h createdBy mappings now))
      fun id => twin_getEventById id
  have hstudents : (mappings.foldlM addStudents []).Twin SamePublic (· = ·)
      (mappings.foldlM addStudents []) := by
    refine Proc.twin_foldlM (S := (· = ·)) (List.forall₂_same.2 fun _ _ => rfl)
      (fun userIds userIds' m m' hids hm => ?_) rfl
    subst hids hm
    unfold addStudents
    have hlook := twin_look_public (f := fun t => studentsOf t m.classId) fun _ => rfl
    exact Proc.twin_bind_eq hlook fun _ => Proc.twin_ret rfl
  refine Proc.twin_bind_eq hstudents fun userIds => ?_
  refine Proc.twin_bind_eq ?_ fun _ => Proc.twin_ret hevent
  cases hevent with
  | none => exact Proc.twin_failIf Iff.rfl
  | some hevent =>
    obtain ⟨subsidy, cost, rfl⟩ := hevent.exists_amounts
    exact Proc.twin_forM fun u _ => Proc.twin_once (paired_createNotification u none)

theorem twin_addResourcesToEvent (eventId : Nat) (lines : List ResourceRow) (addedBy : ParsedId) :
    (addResourcesToEvent eventId lines addedBy).Twin SamePublic (· = ·)
      (addResourcesToEvent eventId lines addedBy) := by
  unfold addResourcesToEvent
  refine twin_getEventById_bind (Proc.twin_fail _) fun event event' h => ?_
  obtain ⟨subsidy, cost, rfl⟩ := h.exists_amounts
  refine Proc.twin_bind_eq (Proc.twin_failIf Iff.rfl) fun _ => ?_
  refine Proc.twin_bind_eq (Proc.twin_once ?_) fun _ => Proc.twin_forM fun r _ => ?_
  · unfold deleteResourcesForEvent
    exact paired_stmt_self (fun _ => rfl) fun _ => priced_of_events rfl
  · refine Proc.twin_bind_eq (twin_ofExcept _) fun addedBy => Proc.twin_once ?_
    unfold createResource
    exact paired_stmt_self (fun _ => rfl) fun _ => priced_of_events rfl

theorem alikeFields_clone {event event' : Event} (h : Alike event event') (now : Timestamp) :
    AlikeFields (cloneFields event now) (cloneFields event' now) := by
  have hnumeric := h.numeric
  obtain ⟨subsidy, cost, rfl⟩ := h.exists_amounts
  exact ⟨rfl, hnumeric.1, hnumeric.2⟩

theorem twin_cloneEvent (eventId : Nat) (createdBy : ParsedId) (userRole : List String)
    (now : Timestamp) : (cloneEvent eventId createdBy userRole now).Twin SamePublic
      (Option.Rel Alike) (cloneEvent eventId createdBy userRole now) := by
  unfold cloneEvent
  refine Proc.twin_bind_eq (Proc.twin_failIf Iff.rfl) fun _ => ?_
  refine twin_getEventById_bind (Proc.twin_fail _) fun event event' h => ?_
  have hfields := alikeFields_clone h now
  obtain ⟨subsidy, cost, rfl⟩ := h.exists_amounts
  refine Proc.twin_bind (twin_createEvent hfields createdBy _ userRole now)
    fun newEvent newEvent' hnew => ?_
  cases hnew with
  | none => exact Proc.twin_fail _
  | some hnew =>
    obtain ⟨subsidy', cost', rfl⟩ := hnew.exists_amounts
    refine Proc.twin_bind_eq ?_ fun _ => twin_getEventById _
    unfold copyResources
    have hlines := twin_look_public (f := fun t => getResourcesForEvent t eventId) fun _ => rfl
    refine Proc.twin_bind_eq hlines fun lines => ?_
    exact Proc.twin_ite (fun _ => Proc.twin_ret rfl) fun _ => twin_addResourcesToEvent _ _ _

theorem twin_cloneEventEndpoint (actor : Actor) (eventId : Nat) (now : Timestamp) :
    (EventsRouter.cloneEventEndpoint actor eventId now).Twin SamePublic Answered
      (EventsRouter.cloneEventEndpoint actor eventId now) := by
  unfold EventsRouter.cloneEventEndpoint
  refine Proc.twin_bind_eq (Proc.twin_failIf Iff.rfl) fun _ => Proc.Twin.wrap ?_ _
  exact Proc.twin_bind (twin_cloneEvent _ _ _ _) fun _ _ => twin_respond

end Creating

/-! ## Reading -/

section Reading

theorem Alike.id_eq {event event' : Event} (h : Alike event event') :
    event.row.id = event'.row.id := by
  obtain ⟨subsidy, cost, rfl⟩ := h.exists_amounts
  rfl

theorem AlikeRows.date_eq {row row' : EventRow} (h : AlikeRows row row') :
    row.date = row'.date := by
  obtain ⟨subsidy, cost, rfl⟩ := h.exists_amounts
  rfl

/-- The events of the two states, one by one. -/
theorem alike_events {d d' : Db} (h : SamePublic d d') :
    List.Forall₂ AlikeRows d.val.events d'.val.events :=
  Twins.forall₂_of_map (fun hrows hp hp' => ⟨hrows, hp, hp'⟩) (congrArg Tables.events h) (priced d)
    (priced d')

theorem alike_byDate {rows rows' : List EventRow} (h : List.Forall₂ AlikeRows rows rows') :
    List.Forall₂ AlikeRows (byDate rows) (byDate rows') :=
  Twins.forall₂_insertionSort (fun ha hb => by rw [ha.date_eq, hb.date_eq]) h

theorem alike_publishedFor {d d' : Db} (h : SamePublic d d') (classId : Nat) :
    List.Forall₂ AlikeRows (publishedFor d.val classId) (publishedFor d'.val classId) := by
  have hclasses : (publicPart d.val).eventClasses = (publicPart d'.val).eventClasses := by rw [h]
  have hclasses : d.val.eventClasses = d'.val.eventClasses := hclasses
  unfold publishedFor
  rw [hclasses]
  refine alike_byDate (List.rel_map (fun row row' hrow => ?_)
    (List.rel_filter (fun row row' hrow => ?_) (alike_events h)))
  · obtain ⟨subsidy, cost, rfl⟩ := hrow.exists_amounts
    exact ⟨rfl, hrow.priced, hrow.priced'⟩
  · obtain ⟨subsidy, cost, rfl⟩ := hrow.exists_amounts
    exact Iff.rfl

theorem twin_withClasses {rows rows' : List EventRow} (h : List.Forall₂ AlikeRows rows rows') :
    (withClasses rows).Twin SamePublic (List.Forall₂ Alike) (withClasses rows') := by
  refine Proc.twin_mapM h fun row row' hrow => ?_
  have hlook : (Proc.look fun d => classMappings d.val row.id : Task (List ClassMapping)).Twin
      SamePublic (· = ·) (Proc.look fun d => classMappings d.val row'.id) := by
    obtain ⟨subsidy, cost, rfl⟩ := hrow.exists_amounts
    exact twin_look_public (f := fun t => classMappings t row.id) fun _ => rfl
  exact Proc.twin_bind hlook fun _ _ hmappings => Proc.twin_ret ⟨hrow, hmappings⟩

theorem twin_getAllEvents :
    getAllEvents.Twin SamePublic (List.Forall₂ Alike) getAllEvents :=
  Proc.twin_bind (Proc.twin_look fun _ _ hd => alike_byDate (alike_events hd)) fun _ _ =>
    twin_withClasses

theorem twin_getEventsForStudent (studentId : Nat) :
    (getEventsForStudent studentId).Twin SamePublic (List.Forall₂ Alike)
      (getEventsForStudent studentId) := by
  unfold getEventsForStudent
  have hclass := twin_look_public (f := fun t => (t.student? studentId).bind StudentRow.classId)
    fun _ => rfl
  refine Proc.twin_bind_eq hclass fun classId => ?_
  cases classId with
  | none => exact Proc.twin_ret .nil
  | some classId =>
    exact Proc.twin_bind (Proc.twin_look fun _ _ hd => alike_publishedFor hd classId) fun _ _ =>
      twin_withClasses

variable {actor : Actor} {events events' : List Event} {ev ev' : Event}

theorem twin_addReadable {also : Event → Bool}
    (halso : ∀ {ev ev'}, Alike ev ev' → also ev = also ev')
    (h : List.Forall₂ Alike events events') (hev : Alike ev ev') :
    (addReadable actor also events ev).Twin SamePublic (List.Forall₂ Alike)
      (addReadable actor also events' ev') := by
  unfold addReadable
  rw [halso hev]
  have hadded := List.rel_append h (.cons hev .nil)
  obtain ⟨subsidy, cost, rfl⟩ := hev.exists_amounts
  refine Proc.twin_bind_eq (twin_ofExcept _) fun readable => Proc.twin_ret ?_
  split_ifs
  · exact hadded
  · exact h

theorem any_id_eq (h : List.Forall₂ Alike events events') (hev : Alike ev ev') :
    (events.any fun e => decide (e.row.id = ev.row.id)) =
      events'.any fun e => decide (e.row.id = ev'.row.id) := by
  rw [hev.id_eq]
  exact Twins.any_eq (fun he => by rw [he.id_eq]) h

theorem twin_addVisible {also : Event → Bool}
    (halso : ∀ {ev ev'}, Alike ev ev' → also ev = also ev')
    (h : List.Forall₂ Alike events events') (hev : Alike ev ev') :
    (addVisible actor also events ev).Twin SamePublic (List.Forall₂ Alike)
      (addVisible actor also events' ev') := by
  unfold addVisible
  rw [any_id_eq h hev]
  exact Proc.twin_ite (fun _ => Proc.twin_ret h) fun _ => twin_addReadable halso h hev

theorem alike_mergeEvent (h : List.Forall₂ Alike events events') (hev : Alike ev ev') :
    List.Forall₂ Alike (mergeEvent events ev) (mergeEvent events' ev') := by
  unfold mergeEvent
  rw [any_id_eq h hev]
  split_ifs
  · refine List.rel_map (fun e e' he => ?_) h
    rw [he.id_eq, hev.id_eq]
    split_ifs
    · refine ⟨he.rows, ?_⟩
      dsimp only
      rw [he.classMappings, hev.classMappings]
    · exact he
  · exact List.rel_append h (.cons hev .nil)

theorem twin_mergeReadable (h : List.Forall₂ Alike events events') (hev : Alike ev ev') :
    (mergeReadable actor events ev).Twin SamePublic (List.Forall₂ Alike)
      (mergeReadable actor events' ev') := by
  unfold mergeReadable
  have hmerged := alike_mergeEvent h hev
  obtain ⟨subsidy, cost, rfl⟩ := hev.exists_amounts
  refine Proc.twin_bind_eq (twin_ofExcept _) fun readable => Proc.twin_ret ?_
  split_ifs
  · exact hmerged
  · exact h

theorem alike_addNew (h : List.Forall₂ Alike events events') (hev : Alike ev ev') :
    List.Forall₂ Alike (addNew events ev) (addNew events' ev') := by
  unfold addNew
  rw [any_id_eq h hev]
  split_ifs
  · exact h
  · exact List.rel_append h (.cons hev .nil)

theorem twin_teacherEvents (h : List.Forall₂ Alike events events') :
    (teacherEvents actor events).Twin SamePublic (List.Forall₂ Alike)
      (teacherEvents actor events') := by
  unfold teacherEvents
  refine Proc.twin_bind_eq (twin_ofExcept _) fun userId => ?_
  have hclasses := twin_look_public (f := fun t => getClassesByHeadTeacher t userId) fun _ => rfl
  refine Proc.twin_bind_eq hclasses fun classes => ?_
  refine Proc.twin_bind twin_getAllEvents fun all all' hall => ?_
  refine Proc.twin_foldlM hall (fun added added' ev ev' hadded hev => ?_) h
  exact twin_addVisible (fun hev => by rw [hev.classMappings]) hadded hev

theorem twin_studentEvents (h : List.Forall₂ Alike events events') :
    (studentEvents actor events).Twin SamePublic (List.Forall₂ Alike)
      (studentEvents actor events') := by
  unfold studentEvents
  refine Proc.twin_bind_eq (twin_ofExcept _) fun userId => ?_
  refine Proc.twin_bind (twin_getEventsForStudent userId) fun all all' hall => ?_
  exact Proc.twin_foldlM hall (fun _ _ _ _ => twin_addVisible fun _ => rfl) h

theorem twin_parentEvents (h : List.Forall₂ Alike events events') :
    (parentEvents actor events).Twin SamePublic (List.Forall₂ Alike)
      (parentEvents actor events') := by
  unfold parentEvents
  refine Proc.twin_bind_eq (twin_ofExcept _) fun userId => ?_
  have hchildren :=
    twin_look_public (f := fun t => getLinkedStudentsForParent t userId) fun _ => rfl
  refine Proc.twin_bind_eq hchildren fun children => ?_
  refine Proc.twin_bind (P := List.Forall₂ Alike) ?_ fun merged merged' hmerged => Proc.twin_ret ?_
  · refine Proc.twin_foldlM (S := (· = ·)) (List.forall₂_same.2 fun _ _ => rfl)
      (fun events events' child child' hevents hchild => ?_) .nil
    subst hchild
    exact Proc.twin_bind (twin_getEventsForStudent child) fun all all' hall =>
      Proc.twin_foldlM hall (fun _ _ _ _ => twin_mergeReadable) hevents
  · exact List.rel_foldl (R := Alike) (fun _ _ hadded _ _ hev => alike_addNew hadded hev) h hmerged

theorem twin_getEventsForUser (actor : Actor) :
    (getEventsForUser actor).Twin SamePublic (List.Forall₂ Alike) (getEventsForUser actor) := by
  have hrole : ∀ {role : String} {source : Actor → List Event → Task (List Event)},
      (∀ {events events'}, List.Forall₂ Alike events events' →
        (source actor events).Twin SamePublic (List.Forall₂ Alike) (source actor events')) →
      ∀ {events events'}, List.Forall₂ Alike events events' →
        (forRole actor role source events).Twin SamePublic (List.Forall₂ Alike)
          (forRole actor role source events') := by
    intro role source hsource events events' h
    exact Proc.twin_ite (fun _ => hsource h) fun _ => Proc.twin_ret h
  unfold getEventsForUser
  refine Proc.twin_ite (fun _ => ?_) fun _ => ?_
  · refine Proc.twin_bind twin_getAllEvents fun all all' hall => ?_
    exact Proc.twin_foldlM hall (fun _ _ _ _ => twin_addReadable fun _ => rfl) .nil
  · refine Proc.twin_bind (hrole twin_teacherEvents .nil) fun added added' hadded => ?_
    refine Proc.twin_bind (hrole twin_studentEvents hadded) fun added added' hadded => ?_
    refine Proc.twin_bind (hrole twin_parentEvents hadded) fun added added' hadded => ?_
    refine Proc.twin_ret (Twins.forall₂_insertionSort (fun ha hb => ?_) hadded)
    rw [ha.rows.date_eq, hb.rows.date_eq]

end Reading

/-! ## The routes that hide the amounts -/

section Masked

variable {actor : Actor} (h : ¬MaySet actor)

include h

theorem shown_eq {event event' : Event} (hevent : Alike event event') :
    EventsRouter.shown actor event = EventsRouter.shown actor event' := by
  obtain ⟨subsidy, cost, rfl⟩ := hevent.exists_amounts
  unfold EventsRouter.shown EventService.maskFinancials
  rw [if_neg (not_privileged h), if_neg (not_privileged h)]
  rfl

theorem twin_listEvents : (EventsRouter.listEvents actor).Twin SamePublic (· = ·)
    (EventsRouter.listEvents actor) := by
  unfold EventsRouter.listEvents
  refine Proc.twin_bind_eq (Proc.twin_failIf Iff.rfl) fun _ => Proc.Twin.wrap ?_ _
  refine Proc.twin_bind (twin_getEventsForUser actor) fun events events' hevents => Proc.twin_ret ?_
  have hshown : List.Forall₂ (· = ·) (events.map (EventsRouter.shown actor))
      (events'.map (EventsRouter.shown actor)) :=
    List.rel_map (R := Alike) (fun _ _ hev => shown_eq h hev) hevents
  exact List.forall₂_eq_eq_eq ▸ hshown

theorem twin_getEvent (eventId : Nat) :
    (EventsRouter.getEvent actor eventId).Twin SamePublic (· = ·)
    (EventsRouter.getEvent actor eventId) := by
  unfold EventsRouter.getEvent
  refine Proc.twin_bind_eq (Proc.twin_failIf Iff.rfl) fun _ => Proc.Twin.wrap ?_ _
  refine twin_getEventById_bind (Proc.twin_fail _) fun event event' hevent => ?_
  have hshown := shown_eq h hevent
  obtain ⟨subsidy, cost, rfl⟩ := hevent.exists_amounts
  refine Proc.twin_bind_eq (twin_ofExcept _) fun readable => ?_
  exact Proc.twin_bind_eq (Proc.twin_failIf Iff.rfl) fun _ => Proc.twin_ret hshown

end Masked

/-! ### A new event

Its total cost is not hidden, but there is none yet. -/

section New

/-- A program that returns an event without a total cost, if any. -/
def Costless (event : Option Event) : Prop := ∀ e ∈ event, e.row.totalCost = none

theorem getEventById_ok {i : Nat} {d d' : Db} {event : Option Event}
    (h : (getEventById i).seq d = .ok event d') : event.map Event.row = d.val.event? i := by
  unfold getEventById at h
  rw [Proc.seq_bind, Proc.seq_look, query_bind] at h
  cases hrow : d.val.event? i with
  | none =>
    rw [hrow] at h
    obtain ⟨rfl, -⟩ := pure_eq_ok.1 h
    rfl
  | some row =>
    rw [hrow] at h
    dsimp only at h
    rw [Proc.seq_bind, Proc.seq_look, query_bind] at h
    obtain ⟨rfl, -⟩ := pure_eq_ok.1 h
    rfl

theorem insertEvent_ok {fields : EventFields} {createdBy id : Nat} {now : Timestamp} {d d' : Db}
    (h : insertEvent fields createdBy now d = .ok id d') :
    ∃ e, d'.val.event? id = some e ∧ e.totalCost = none := by
  unfold insertEvent at h
  rw [query_bind] at h
  obtain ⟨u, d₁, hinsert, hret⟩ := bind_eq_ok.1 h
  obtain ⟨hid, rfl⟩ := pure_eq_ok.1 hret
  have hval := exec_eq_ok.1 hinsert
  have hnew : ∃ e ∈ d₁.val.events, e.id = id ∧ e.totalCost = none := by
    rw [hval]
    exact ⟨_, List.mem_append_right _ (List.mem_singleton_self _), hid, rfl⟩
  obtain ⟨e, he, heid, hcost⟩ := hnew
  exact ⟨e, d₁.ok.keys.events.find?_eq_some.2 ⟨he, heid⟩, hcost⟩

theorem insertWithClasses_ok {fields : EventFields} {createdBy id : Nat}
    {mappings : List ClassMappingRequest} {now : Timestamp} {d d' : Db}
    (h : insertWithClasses fields createdBy mappings now d = .ok id d') :
    ∃ e, d'.val.event? id = some e ∧ e.totalCost = none := by
  unfold insertWithClasses at h
  obtain ⟨id', d₁, hinsert, hrest⟩ := bind_eq_ok.1 (transaction_eq_ok.1 h)
  obtain ⟨u, d₂, hclasses, hret⟩ := bind_eq_ok.1 hrest
  obtain ⟨rfl, rfl⟩ := pure_eq_ok.1 hret
  have hsame : d₂.val.events = d₁.val.events := by
    refine (moves_forM fun m _ => ?_ : Moves (Same fun d : Db => d.val.events) _).same_ok hclasses
    unfold insertEventClass
    exact moves_exec fun _ _ => rfl
  unfold Tables.event?
  rw [hsame]
  exact insertEvent_ok hinsert

theorem createEvent_ok {fields : EventFields} {createdBy : ParsedId}
    {mappings : List ClassMappingRequest} {userRole : List String} {now : Timestamp} {d d' : Db}
    {event : Option Event}
    (h : (TenantService.createEvent fields createdBy mappings userRole now).seq d = .ok event d') :
    Costless event := by
  unfold TenantService.createEvent at h
  simp only [Proc.seq_bind, Proc.seq_failIf] at h
  obtain ⟨u, d₁, -, h⟩ := bind_eq_ok.1 h
  obtain ⟨event', d₂, hevent, h⟩ := bind_eq_ok.1 h
  obtain ⟨ids, d₃, -, h⟩ := bind_eq_ok.1 h
  obtain ⟨u', d₄, -, h⟩ := bind_eq_ok.1 h
  obtain ⟨rfl, -⟩ := pure_eq_ok.1 h
  unfold TenantRepository.createEvent at hevent
  simp only [Proc.seq_bind, Proc.seq_once] at hevent
  obtain ⟨n, d₅, -, hevent⟩ := bind_eq_ok.1 hevent
  obtain ⟨id, d₆, hinsert, hget⟩ := bind_eq_ok.1 hevent
  obtain ⟨e, he, hcost⟩ := insertWithClasses_ok hinsert
  intro e' he'
  have hrow := getEventById_ok hget
  rw [he, Option.mem_def.1 he'] at hrow
  cases hrow
  exact hcost

theorem twin_createEventRoute {actor : Actor} (h : ¬MaySet actor) (payload : EventCreateRequest)
    (now : Timestamp) : (EventsRouter.createEvent actor payload now).Twin SamePublic (· = ·)
      (EventsRouter.createEvent actor payload now) := by
  unfold EventsRouter.createEvent
  refine Proc.twin_bind_eq (Proc.twin_failIf Iff.rfl) fun _ => Proc.Twin.wrap ?_ _
  have hsee : ¬actor.user.hasAnyRole ["school_admin", "manager"] = true := by
    intro hsee
    refine h ?_
    unfold MaySet
    simp only [Authz.CurrentUser.hasAnyRole, List.any_cons, List.any_nil, Bool.or_eq_true] at hsee ⊢
    tauto
  have hfields : AlikeFields (payload.fields 0) (payload.fields 0) :=
    ⟨rfl, numeric_zero, numeric_zero⟩
  simp only [EventService.resolveSubsidy, if_neg (not_privileged h), if_neg hsee]
  have hcreate := twin_createEvent hfields actor.id payload.classMappings actor.user.roles now
  refine Proc.twin_bind (hcreate.and (U := Costless) (fun _ _ _ => createEvent_ok) fun _ _ _ =>
    createEvent_ok) fun event event' hevents => ?_
  obtain ⟨hevent, hcost, hcost'⟩ := hevents
  cases hevent with
  | none => exact Proc.twin_fail _
  | @some event event' hevent =>
    have hcost := hcost event rfl
    have hcost' := hcost' event' rfl
    obtain ⟨subsidy, cost, rfl⟩ := hevent.exists_amounts
    refine Proc.twin_ret ?_
    dsimp only at hcost' ⊢
    rw [hcost, hcost']
    rfl

end New

end Sams.Trips
