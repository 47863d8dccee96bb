import Sams.Trips.Editing

/-!
# The actions of the event requests

What the requests on an event do, action by action. A request keeps to a guarantee when its writes
and its notifications do: one rule for each request, over any guarantee `G` and any relation `H`
that says what a marked action takes for granted.
-/

namespace Sams.Trips

open School Programs Rows Interleaving TenantRepository TenantService

variable {H : Mark → Db → Prop} {G : Option Mark → Db → Db → Prop}

/-! ## Reads -/

theorem keeps_ofExcept {α : Type} (x : Except PyError α) : (ofExcept x).Keeps H G := by
  cases x with
  | ok a => exact Proc.keeps_ret a
  | error e => exact Proc.keeps_fail e

theorem ofExcept_eq_ok {α : Type} {x : Except PyError α} {a : α} {d d' : Db} :
    (ofExcept x).seq d = .ok a d' ↔ x = .ok a ∧ d = d' := by
  cases x <;> simp [ofExcept, Proc.seq]

theorem column_eq_ok {id : ParsedId} {n : Nat} : id.column = .ok n ↔ id = .number n := by
  cases id <;> simp [ParsedId.column]

/-- What follows need only be valid for a value that is there. -/
theorem valid_ofExcept_bind {α β : Type} {R : Db → Db → Prop} {post : β → Db → Prop} {A : Db → Prop}
    {x : Except PyError α} {f : α → Task β} (h : ∀ a, x = .ok a → (f a).Valid H R G post A) :
    (ofExcept x >>= f).Valid H R G post A := by
  cases x with
  | ok a => exact h a rfl
  | error e => exact Proc.valid_fail e

/-- What follows need only keep to the guarantee for a value that is there. -/
theorem keeps_ofExcept_bind {α β : Type} {x : Except PyError α} {f : α → Task β}
    (h : ∀ a, x = .ok a → (f a).Keeps H G) : (ofExcept x >>= f).Keeps H G := valid_ofExcept_bind h

/-- What follows need only keep to the guarantee where nothing is raised. -/
theorem keeps_failIf_bind {β : Type} {c : Prop} [Decidable c] {e : PyError} {f : Unit → Task β}
    (h : ¬c → (f ()).Keeps H G) : (Proc.failIf c e >>= f).Keeps H G := by
  unfold Proc.failIf
  by_cases hc : c
  · rw [if_pos hc]
    exact Proc.keeps_fail e
  · rw [if_neg hc]
    exact h hc

theorem keeps_respond (event : Option Event) : (respond event).Keeps H G := by
  cases event with
  | none => exact Proc.keeps_fail _
  | some event => exact Proc.keeps_ret _

section Reads

variable (hrefl : ∀ d, G none d d)

include hrefl

theorem keeps_getEventById (i : Nat) : (getEventById i).Keeps H G := by
  unfold getEventById
  refine Proc.keeps_bind (Proc.keeps_look hrefl _) fun row => ?_
  cases row with
  | none => exact Proc.keeps_ret _
  | some row => exact Proc.keeps_bind (Proc.keeps_look hrefl _) fun _ => Proc.keeps_ret _

theorem keeps_getPredictedAttendance (classIds : List Nat) :
    (getPredictedAttendance classIds).Keeps H G := by
  unfold getPredictedAttendance
  refine Proc.keeps_ite (fun _ => Proc.keeps_ret _) fun _ => ?_
  exact Proc.keeps_bind (Proc.keeps_look hrefl _) fun _ => Proc.keeps_ret _

theorem keeps_predicted (classIds : List Nat) : (predicted classIds).Keeps H G := by
  unfold predicted
  refine Proc.keeps_ite (fun _ => Proc.keeps_ret _) fun _ => Proc.keeps_map ?_
  exact keeps_getPredictedAttendance hrefl classIds

end Reads

/-! ## Statements -/

section Statements

variable {eventId : Nat}

theorem statusOf_of_events {d d' : Db} (h : d'.val.events = d.val.events) :
    statusOf d' eventId = statusOf d eventId := by
  unfold statusOf Tables.event?
  rw [h]

theorem moves_createNotification (i r : Nat) (title : Option String) :
    Moves (Same fun d : Db => d.val.events) (createNotification i r title) := by
  unfold createNotification
  exact moves_exec fun _ _ => rfl

theorem status_of_mem {d : Db} {found : EventStatus} (h : statusOf d eventId = some found)
    {e : EventRow} (he : e ∈ d.val.events) (hid : e.id = eventId) : e.status = found := by
  have hfind : d.val.event? eventId = some e := d.ok.keys.events.find?_eq_some.2 ⟨he, hid⟩
  simpa [statusOf, hfind] using h

/-- The `UPDATE` writes the status of an event that is there. -/
theorem writeEventStatus_ok {fields : UpdateFields} {reviewer : Option Nat} {d d' : Db} {u : Unit}
    (h : writeEventStatus eventId fields reviewer d = .ok u d') :
    statusOf d' eventId = (statusOf d eventId).map fun _ => fields.status := by
  unfold writeEventStatus at h
  unfold statusOf Tables.event?
  rw [exec_eq_ok.1 h, find?_updateWhere (by intro _; rfl)]
  cases hfind : d.val.events.find? fun e => decide (e.id = eventId) with
  | none => rfl
  | some e =>
    have hid : e.id = eventId := by simpa using List.find?_some hfind
    simp [hid, UpdateFields.write]

/-- The reviewer is read or refused before the `UPDATE`. -/
theorem updateEventStatus_cases (eventId : Nat) (fields : UpdateFields) :
    (∃ reviewer, updateEventStatus eventId fields = writeEventStatus eventId fields reviewer) ∨
      updateEventStatus eventId fields = throw .databaseError := by
  unfold updateEventStatus
  cases fields.managerReviewerId with
  | none => exact .inl ⟨_, rfl⟩
  | some id =>
    cases id with
    | number n => exact .inl ⟨_, rfl⟩
    | other asInt => exact .inr rfl

theorem updateEventStatus_ok {fields : UpdateFields} {d d' : Db} {u : Unit}
    (h : updateEventStatus eventId fields d = .ok u d') :
    statusOf d' eventId = (statusOf d eventId).map fun _ => fields.status := by
  rcases updateEventStatus_cases eventId fields with ⟨reviewer, hcase⟩ | hcase
  · rw [hcase] at h
    exact writeEventStatus_ok h
  · rw [hcase] at h
    exact (throw_eq_ok.1 h).elim

theorem updateEventStatus_error {fields : UpdateFields} {d d' : Db} {e : PyError}
    (h : updateEventStatus eventId fields d = .error e d') : d' = d := by
  rcases updateEventStatus_cases eventId fields with ⟨reviewer, hcase⟩ | hcase
  · rw [hcase] at h
    unfold writeEventStatus at h
    exact exec_eq_error h
  · rw [hcase] at h
    exact (throw_eq_error.1 h).2.symm

end Statements

/-! ## Transitions -/

/-- The actions that publish with their notifications. -/
def publishing : List EventAction := [.teacherPublish, .publish, .managerPublish]

/-- What the effects of an action hand on to the `UPDATE`. -/
structure UpdateFields.For (fields : UpdateFields) (next : EventStatus) (action : EventAction)
    (now : Timestamp) : Prop where
  status : fields.status = next
  approved : fields.managerApprovedAt = if action ∈ approving then some now else none
  published : fields.publishedAt = if action ∈ publishing then some now else none
  reason : fields.rejectionReason.isSome → action ∈ rejecting

/-- What a transition call needs to keep to the guarantee. -/
structure Allows (H : Mark → Db → Prop) (G : Option Mark → Db → Db → Prop) (eventId : Nat)
    (action : EventAction) (now : Timestamp) : Prop where
  refl : ∀ d, G none d d
  notify : ∀ r title, (Proc.once (createNotification eventId r title) : Task Unit).Keeps H G
  announce : ∀ found r title, found = .approved →
    (Proc.marked (.announce eventId found) (createNotification eventId r title) : Task Unit).Keeps H
      G
  write : ∀ found next role fields, transitions found action = some (next, role) →
    UpdateFields.For fields next action now →
    (Proc.marked (.status eventId found next) (updateEventStatus eventId fields) : Task Unit).Keeps
      H G

/-- Only an approved event is published. -/
theorem approved_of_publishing {st : EventStatus} {action : EventAction} {next : EventStatus}
    {role : String} (h : transitions st action = some (next, role))
    (haction : action ∈ publishing) :
    st = .approved := by
  unfold transitions at h
  split at h <;> simp_all [publishing]

theorem keeps_checkPreconditions (event : Event) (action : EventAction) (actor : Actor)
    (reason : Option String) : (checkPreconditions event action actor reason).Keeps H G := by
  unfold checkPreconditions
  refine Proc.keeps_ite (fun _ => ?_) fun _ => Proc.keeps_ite (fun _ => ?_) fun _ => ?_
  · refine Proc.keeps_bind (keeps_ofExcept _) fun actorId => ?_
    exact Proc.keeps_bind Proc.keeps_failIf fun _ => Proc.keeps_failIf
  · exact Proc.keeps_failIf
  · exact Proc.keeps_ret _

section Transitions

variable {eventId : Nat} {action : EventAction} {now : Timestamp}
variable (h : Allows H G eventId action now)

include h

theorem keeps_announceAll {event : Event} (hstatus : event.row.status = .approved)
    (studentTitle parentTitle : String) :
    (announceAll eventId event studentTitle parentTitle).Keeps H G := by
  unfold announceAll
  refine Proc.keeps_ite (fun _ => Proc.keeps_ret _) fun _ => ?_
  refine Proc.keeps_bind (Proc.keeps_look h.refl _) fun students => Proc.keeps_forM fun s _ => ?_
  refine Proc.keeps_bind (h.announce _ _ _ hstatus) fun _ => ?_
  refine Proc.keeps_bind (Proc.keeps_look h.refl _) fun parents => Proc.keeps_forM fun p _ => ?_
  exact h.announce _ _ _ hstatus

theorem gives_submitEffects (event : Event) (next : EventStatus) (haction : action ∈ submitting) :
    (submitEffects eventId event next now).Gives H G fun fields => fields.For next action now := by
  unfold submitEffects
  refine Proc.gives_bind (keeps_predicted h.refl _) fun predictedAttendance _ => ?_
  refine Proc.gives_bind (Proc.keeps_look h.refl _) fun managers _ => ?_
  refine Proc.gives_bind (Proc.keeps_forM fun m _ => h.notify _ _) fun _ _ => Proc.gives_ret ?_
  simp only [submitting, List.mem_cons, List.not_mem_nil, or_false] at haction
  rcases haction with rfl | rfl | rfl | rfl <;>
    exact ⟨rfl, by simp [approving], by simp [publishing], by simp⟩

theorem gives_effects {event : Event} {next : EventStatus} {role : String}
    (htransition : transitions event.row.status action = some (next, role)) (actor : Actor)
    (reason : Option String) :
    (effects eventId event next action actor reason now).Gives H G
      fun fields => fields.For next action now := by
  unfold effects
  refine Proc.gives_ite (fun hsubmit => gives_submitEffects h _ _ hsubmit) fun _ => ?_
  refine Proc.gives_ite (fun hin => ?_) fun happrove => ?_
  · refine Proc.gives_bind (h.notify _ _) fun _ _ =>
      Proc.gives_ret ⟨rfl, by simp [hin], ?_, by simp⟩
    simp only [approving, List.mem_cons, List.not_mem_nil, or_false] at hin
    rcases hin with rfl | rfl <;> simp [publishing]
  refine Proc.gives_ite (fun hin => ?_) fun hreject => ?_
  · refine Proc.gives_bind (h.notify _ _) fun _ _ =>
      Proc.gives_ret ⟨rfl, by simp [happrove], ?_, fun _ => hin⟩
    simp only [rejecting, List.mem_cons, List.not_mem_nil, or_false] at hin
    rcases hin with rfl | rfl <;> simp [publishing]
  refine Proc.gives_ite (fun hin => ?_) fun hteacher => ?_
  · have hin : action ∈ publishing := by
      rcases hin with rfl | rfl <;> simp [publishing]
    have hstatus := approved_of_publishing htransition hin
    refine Proc.gives_bind (keeps_announceAll h hstatus _ _) fun _ _ => Proc.gives_ret ?_
    exact ⟨rfl, by simp [happrove], by simp [hin], by simp⟩
  refine Proc.gives_ite (fun hin => ?_) fun hmanager => Proc.gives_ret ?_
  · have hin : action ∈ publishing := by simp [publishing, hin]
    have hstatus := approved_of_publishing htransition hin
    refine Proc.gives_bind (keeps_announceAll h hstatus _ _) fun _ _ => Proc.gives_ret ?_
    exact ⟨rfl, by simp [happrove], by simp [hin], by simp⟩
  · have hnot : action ∉ publishing := by
      simp only [publishing, List.mem_cons, List.not_mem_nil, or_false]
      tauto
    exact ⟨rfl, by simp [happrove], by simp [hnot], by simp⟩

theorem keeps_transitionEvent (actor : Actor) (reason : Option String) :
    (transitionEvent eventId action actor reason now).Keeps H G := by
  unfold transitionEvent
  refine Proc.keeps_bind (keeps_getEventById h.refl _) fun event => ?_
  cases event with
  | none => exact Proc.keeps_fail _
  | some event =>
    dsimp only
    cases htransition : transitions event.row.status action with
    | none => exact Proc.keeps_fail _
    | some target =>
      obtain ⟨next, role⟩ := target
      refine Proc.keeps_bind Proc.keeps_failIf fun _ => ?_
      refine Proc.keeps_bind (keeps_checkPreconditions _ _ _ _) fun _ => ?_
      refine Proc.gives_bind (gives_effects h htransition _ _) fun fields hfields => ?_
      refine Proc.keeps_bind (h.write _ _ _ _ htransition hfields) fun _ => ?_
      exact keeps_getEventById h.refl _

end Transitions

/-! ## The routes of the workflow

None of them uses the action `submit`. -/

theorem resolveSubmitAction_ne {status : EventStatus} {actor : Actor} {action : EventAction}
    (h : EventService.resolveSubmitAction status actor = .ok action) : action ≠ .submit := by
  unfold EventService.resolveSubmitAction at h
  split_ifs at h <;> cases h <;> decide

section Routes

variable {eventId : Nat} {now : Timestamp}
variable (h : ∀ action, action ≠ .submit → Allows H G eventId action now)

include h

theorem keeps_submitEvent (actor : Actor) :
    (EventsRouter.submitEvent actor eventId now).Keeps H G := by
  unfold EventsRouter.submitEvent EventsRouter.requireTenant
  refine Proc.keeps_bind Proc.keeps_failIf fun _ => Proc.Keeps.wrap ?_ _
  refine Proc.keeps_bind (keeps_getEventById (h .propose (by decide)).refl _) fun event => ?_
  cases event with
  | none => exact Proc.keeps_fail _
  | some event =>
    dsimp only
    refine keeps_ofExcept_bind fun action haction => ?_
    have hallows := h action (resolveSubmitAction_ne haction)
    exact Proc.keeps_bind (keeps_transitionEvent hallows _ _) fun _ => keeps_respond _

theorem keeps_managerDecision (actor : Actor) (decision : Decision) (reason : Option String) :
    (EventsRouter.managerDecision actor eventId decision reason now).Keeps H G := by
  unfold EventsRouter.managerDecision EventsRouter.requireTenant
  refine Proc.keeps_bind Proc.keeps_failIf fun _ => Proc.Keeps.wrap ?_ _
  refine Proc.keeps_bind (keeps_transitionEvent (h _ ?_) _ _) fun _ => keeps_respond _
  split_ifs <;> decide

theorem keeps_teacherPublishEvent (actor : Actor) :
    (EventsRouter.teacherPublishEvent actor eventId now).Keeps H G := by
  unfold EventsRouter.teacherPublishEvent EventsRouter.requireTenant
  refine Proc.keeps_bind Proc.keeps_failIf fun _ => Proc.keeps_bind Proc.keeps_failIf fun _ =>
    Proc.Keeps.wrap ?_ _
  refine Proc.keeps_bind (keeps_transitionEvent (h _ ?_) _ _) fun _ => keeps_respond _
  unfold EventService.resolvePublishAction
  split_ifs <;> decide

theorem keeps_eventTeacherDecision (actor : Actor) (decision : Decision) (reason : Option String) :
    (EventsRouter.eventTeacherDecision actor eventId decision reason now).Keeps H G := by
  unfold EventsRouter.eventTeacherDecision EventsRouter.requireTenant
  refine Proc.keeps_bind Proc.keeps_failIf fun _ => Proc.Keeps.wrap ?_ _
  refine Proc.keeps_bind Proc.keeps_failIf fun _ => ?_
  exact Proc.keeps_bind (keeps_transitionEvent (h _ (by decide)) _ _) fun _ => keeps_respond _

end Routes

/-! ## Editing -/

/-- What the requests that change an event need to keep to the guarantee, where they set its subsidy
to no other amount than `Sets` allows. -/
structure AllowsEdits (H : Mark → Db → Prop) (G : Option Mark → Db → Db → Prop) (eventId : Nat)
    (Sets : Money → Prop) : Prop where
  refl : ∀ d, G none d d
  set : ∀ fields mappings, Sets fields.schoolSubsidy →
    (Proc.marked (.setSubsidy eventId fields.schoolSubsidy)
      (setFieldsAndClasses eventId fields mappings) : Task Unit).Keeps H G
  keep : ∀ fields mappings, (Proc.marked (.keepSubsidy eventId fields.schoolSubsidy)
    (setFieldsAndClasses eventId fields mappings) : Task Unit).Keeps H G
  patch : ∀ fields, (Proc.marked (.keepSubsidy eventId fields.schoolSubsidy)
    (TenantRepository.updateEvent eventId fields) : Task (Option EventRow)).Keeps H G
  subsidy : ∀ amount, Sets amount → (Proc.marked (.setSubsidy eventId amount)
    (TenantRepository.updateSubsidy eventId amount) : Task Unit).Keeps H G

section Editing

variable {eventId : Nat} {Sets : Money → Prop} (h : AllowsEdits H G eventId Sets)

include h

theorem keeps_ownMappings (mappings : List ClassMappingRequest)
    (userRole : List String) (userId : ParsedId) :
    (ownMappings eventId mappings userRole userId).Keeps H G := by
  unfold ownMappings
  refine Proc.keeps_ite (fun _ => Proc.keeps_ret _) fun _ =>
    Proc.keeps_ite (fun _ => ?_) fun _ => Proc.keeps_fail _
  refine Proc.keeps_bind (keeps_ofExcept _) fun userId => ?_
  refine Proc.keeps_bind (Proc.keeps_look h.refl _) fun classes => ?_
  refine Proc.keeps_bind Proc.keeps_failIf fun _ => ?_
  refine Proc.keeps_bind (keeps_getEventById h.refl _) fun event => ?_
  cases event with
  | none => exact Proc.keeps_fail _
  | some event => exact Proc.keeps_bind Proc.keeps_failIf fun _ => Proc.keeps_ret _

theorem keeps_updateEventFull {mark : Mark} {fields : EventFields}
    (hwrite : ∀ mappings, (Proc.marked mark (setFieldsAndClasses eventId fields mappings) :
      Task Unit).Keeps H G) (mappings : List ClassMappingRequest) (userRole : List String)
    (userId : ParsedId) :
    (TenantService.updateEventFull mark eventId fields mappings userRole userId).Keeps H G := by
  unfold TenantService.updateEventFull
  refine Proc.keeps_bind (keeps_ownMappings h _ _ _) fun mappings => ?_
  refine Proc.keeps_bind ?_ fun event => ?_
  · unfold TenantRepository.updateEventFull
    exact Proc.keeps_bind (hwrite mappings) fun _ => keeps_getEventById h.refl _
  · cases event with
    | none => exact Proc.keeps_fail _
    | some event => exact Proc.keeps_ret _

/-- Only a privileged actor sets the subsidy along with the other fields. -/
theorem keeps_updateEvent {actor : Actor} {payload : EventCreateRequest}
    (hsets : actor.isOneOf EventService.privileged = true → Sets payload.schoolSubsidy) :
    (EventsRouter.updateEvent actor eventId payload).Keeps H G := by
  unfold EventsRouter.updateEvent
  refine Proc.keeps_bind Proc.keeps_failIf fun _ => Proc.Keeps.wrap ?_ _
  refine Proc.keeps_bind (keeps_getEventById h.refl _) fun event => ?_
  cases event with
  | none => exact Proc.keeps_fail _
  | some event =>
    refine Proc.keeps_bind ?_ fun _ => ?_
    · unfold EventService.requireEditable
      exact Proc.keeps_bind (keeps_ofExcept _) fun _ => Proc.keeps_failIf
    · refine Proc.keeps_bind (keeps_updateEventFull h (fun mappings => ?_) _ _ _) fun _ =>
        Proc.keeps_ret _
      unfold EventService.resolveSubsidy
      by_cases hprivileged : actor.isOneOf EventService.privileged = true
      · rw [if_pos hprivileged, if_pos hprivileged]
        exact h.set (payload.fields _) mappings (hsets hprivileged)
      · rw [if_neg hprivileged, if_neg hprivileged]
        exact h.keep (payload.fields _) mappings

theorem keeps_patchEvent (actor : Actor) (payload : EventPatchRequest) :
    (EventsRouter.patchEvent actor eventId payload).Keeps H G := by
  unfold EventsRouter.patchEvent EventsRouter.requireTenant
  refine Proc.keeps_bind Proc.keeps_failIf fun _ => Proc.Keeps.wrap ?_ _
  refine Proc.keeps_bind (keeps_getEventById h.refl _) fun event => ?_
  cases event with
  | none => exact Proc.keeps_fail _
  | some event =>
    refine Proc.keeps_bind (keeps_ofExcept _) fun _ => Proc.keeps_bind Proc.keeps_failIf fun _ => ?_
    refine Proc.keeps_bind (h.patch (EventsRouter.patchedFields event.row payload)) fun row =>
      ?_
    cases row with
    | none => exact Proc.keeps_fail _
    | some row => exact Proc.keeps_ret _

theorem keeps_selectAudience (actor : Actor) (payload : AudienceSelect) :
    (EventsRouter.selectAudience actor eventId payload).Keeps H G := by
  unfold EventsRouter.selectAudience EventsRouter.requireTenant
  refine Proc.keeps_bind Proc.keeps_failIf fun _ => Proc.Keeps.wrap ?_ _
  refine Proc.keeps_bind (keeps_getEventById h.refl _) fun event => ?_
  cases event with
  | none => exact Proc.keeps_fail _
  | some event =>
    refine Proc.keeps_bind (keeps_ofExcept _) fun _ => Proc.keeps_bind Proc.keeps_failIf fun _ => ?_
    refine Proc.keeps_bind ?_ fun _ => keeps_getPredictedAttendance h.refl _
    unfold TenantRepository.updateEventFull
    exact Proc.keeps_bind (h.keep (EventsRouter.patchedFields event.row {}) _) fun _ =>
      keeps_getEventById h.refl _

theorem keeps_updateEventSubsidy {actor : Actor} {amount : Money}
    (hsets : actor.user.hasAnyRole ["school_admin", "manager",
      "super_admin"] = true → Sets amount) :
    (EventsRouter.updateEventSubsidy actor eventId amount).Keeps H G := by
  unfold EventsRouter.updateEventSubsidy EventsRouter.requireTenant
  refine Proc.keeps_bind Proc.keeps_failIf fun _ => keeps_failIf_bind fun hrole =>
    Proc.Keeps.wrap ?_ _
  unfold EventService.updateSubsidy
  refine Proc.keeps_bind (keeps_getEventById h.refl _) fun event => ?_
  cases event with
  | none => exact Proc.keeps_fail _
  | some event =>
    refine Proc.keeps_bind ?_ fun _ =>
      Proc.keeps_bind (h.subsidy _ (hsets (not_not.1 hrole))) fun _ => Proc.keeps_ret _
    unfold EventService.requireVisible
    refine Proc.keeps_ite (fun _ => Proc.keeps_ret _) fun _ => ?_
    exact Proc.keeps_bind (keeps_ofExcept _) fun _ => Proc.keeps_failIf

end Editing

/-! ## Creating and cloning -/

/-- What copying the resources of an event needs to keep to the guarantee. -/
structure AllowsResources (H : Mark → Db → Prop) (G : Option Mark → Db → Db → Prop) : Prop where
  refl : ∀ d, G none d d
  clear : ∀ i, (Proc.once (deleteResourcesForEvent i) : Task Unit).Keeps H G
  resource : ∀ i u, (Proc.once (createResource i u) : Task Unit).Keeps H G

theorem keeps_copyResources (h : AllowsResources H G) (eventId newEventId : Nat)
    (createdBy : ParsedId) : (copyResources eventId newEventId createdBy).Keeps H G := by
  unfold copyResources
  refine Proc.keeps_bind (Proc.keeps_look h.refl _) fun lines => ?_
  refine Proc.keeps_ite (fun _ => Proc.keeps_ret _) fun _ => ?_
  unfold addResourcesToEvent
  refine Proc.keeps_bind (keeps_getEventById h.refl _) fun event => ?_
  cases event with
  | none => exact Proc.keeps_fail _
  | some event =>
    refine Proc.keeps_bind Proc.keeps_failIf fun _ => Proc.keeps_bind (h.clear _) fun _ => ?_
    refine Proc.keeps_forM fun _ _ => Proc.keeps_bind (keeps_ofExcept _) fun _ => ?_
    exact h.resource _ _

/-- What the requests that create an event need to keep to the guarantee. -/
structure AllowsNew (H : Mark → Db → Prop) (G : Option Mark → Db → Db → Prop) : Prop
    extends AllowsResources H G where
  insert : ∀ fields createdBy mappings now,
    (Proc.once (insertWithClasses fields createdBy mappings now) : Task Nat).Keeps H G
  notify : ∀ i r title, (Proc.once (createNotification i r title) : Task Unit).Keeps H G

section Creating

variable (h : AllowsNew H G)

include h

theorem keeps_createEvent (fields : EventFields) (createdBy : ParsedId)
    (mappings : List ClassMappingRequest) (userRole : List String) (now : Timestamp) :
    (TenantService.createEvent fields createdBy mappings userRole now).Keeps H G := by
  unfold TenantService.createEvent
  refine Proc.keeps_bind Proc.keeps_failIf fun _ => ?_
  refine Proc.keeps_bind ?_ fun event => ?_
  · unfold TenantRepository.createEvent
    refine Proc.keeps_bind (keeps_ofExcept _) fun createdBy => ?_
    exact Proc.keeps_bind (h.insert _ _ _ _) fun _ => keeps_getEventById h.refl _
  · refine Proc.keeps_bind (Proc.keeps_foldlM fun userIds mapping _ => ?_) fun userIds => ?_
    · exact Proc.keeps_bind (Proc.keeps_look h.refl _) fun _ => Proc.keeps_ret _
    · refine Proc.keeps_bind ?_ fun _ => Proc.keeps_ret _
      cases event with
      | none => exact Proc.keeps_failIf
      | some event => exact Proc.keeps_forM fun _ _ => h.notify _ _ _

theorem keeps_cloneEvent (eventId : Nat) (createdBy : ParsedId) (userRole : List String)
    (now : Timestamp) : (cloneEvent eventId createdBy userRole now).Keeps H G := by
  unfold cloneEvent
  refine Proc.keeps_bind Proc.keeps_failIf fun _ => ?_
  refine Proc.keeps_bind (keeps_getEventById h.refl _) fun original => ?_
  cases original with
  | none => exact Proc.keeps_fail _
  | some original =>
    refine Proc.keeps_bind (keeps_createEvent h _ _ _ _ _) fun newEvent => ?_
    cases newEvent with
    | none => exact Proc.keeps_fail _
    | some newEvent =>
      exact Proc.keeps_bind (keeps_copyResources h.toAllowsResources _ _ _) fun _ =>
        keeps_getEventById h.refl _

theorem keeps_createEventRoute (actor : Actor) (payload : EventCreateRequest) (now : Timestamp) :
    (EventsRouter.createEvent actor payload now).Keeps H G := by
  unfold EventsRouter.createEvent
  refine Proc.keeps_bind Proc.keeps_failIf fun _ => Proc.Keeps.wrap ?_ _
  refine Proc.keeps_bind (keeps_createEvent h _ _ _ _ _) fun event => ?_
  cases event with
  | none => exact Proc.keeps_fail _
  | some event => exact Proc.keeps_ret _

theorem keeps_cloneEventEndpoint (actor : Actor) (eventId : Nat) (now : Timestamp) :
    (EventsRouter.cloneEventEndpoint actor eventId now).Keeps H G := by
  unfold EventsRouter.cloneEventEndpoint
  refine Proc.keeps_bind Proc.keeps_failIf fun _ => Proc.Keeps.wrap ?_ _
  exact Proc.keeps_bind (keeps_cloneEvent h _ _ _ _) fun event => keeps_respond event

end Creating

end Sams.Trips
