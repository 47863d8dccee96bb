import Sams.Trips.Actions

/-!
# The stamps of an event

The workflow stamps an event when it is approved and when it is published, and keeps the reason of a
rejection until the next step. Its `UPDATE` keeps every stamp that it is not given a value for, over
any number of rounds.

Requests of all kinds run at the same time here: the workflow, creations, clones, edits and
deletions. **`stamped_run`**: where no call uses the action `submit` and every status write finds
the status that was read, the stamps agree with the status throughout.
-/

namespace Sams.Trips

open School Programs Rows Runs Interleaving TenantRepository TenantService

/-! ## Stamps that agree with the status -/

/-- The stamps of an event agree with its status. -/
@[mk_iff]
structure Stamped (e : EventRow) : Prop where
  published : e.publishedAt.isSome ↔ e.status = .published
  approved : e.status = .approved ∨ e.status = .published → e.managerApprovedAt.isSome
  reason : e.rejectionReason.isSome → e.status = .draft

instance (e : EventRow) : Decidable (Stamped e) := decidable_of_iff _ (stamped_iff e).symm

/-- The stamps of every event agree with its status. -/
def WellStamped (d : Db) : Prop := ∀ e ∈ d.val.events, Stamped e

instance (d : Db) : Decidable (WellStamped d) := inferInstanceAs (Decidable (∀ e ∈ _, _))

/-- The status of an event and its stamps. -/
def stamps (e : EventRow) :
    EventStatus × Option Timestamp × Option Timestamp × Option String :=
  (e.status, e.publishedAt, e.managerApprovedAt, e.rejectionReason)

theorem Stamped.of_stamps {e e' : EventRow} (he : Stamped e) (h : stamps e' = stamps e) :
    Stamped e' := by
  simp only [stamps, Prod.mk.injEq] at h
  obtain ⟨hstatus, hpublished, happroved, hreason⟩ := h
  refine ⟨?_, ?_, ?_⟩
  · rw [hpublished, hstatus]
    exact he.published
  · rw [happroved, hstatus]
    exact he.approved
  · rw [hreason, hstatus]
    exact he.reason

/-- Every event has the stamps of some event before. -/
def Inherits (d d' : Db) : Prop :=
  ∀ e' ∈ d'.val.events, ∃ e ∈ d.val.events, stamps e' = stamps e

instance : IsPreorder Db Inherits where
  refl _ e he := ⟨e, he, rfl⟩
  trans _ _ _ h h' e he := by
    obtain ⟨e', he', hstamps⟩ := h' e he
    obtain ⟨e'', he'', hstamps'⟩ := h e' he'
    exact ⟨e'', he'', hstamps.trans hstamps'⟩

theorem Inherits.keeps {d d' : Db} (h : Inherits d d') : Keeps WellStamped d d' := by
  intro hstamped e' he'
  obtain ⟨e, he, hstamps⟩ := h e' he'
  exact (hstamped e he).of_stamps hstamps

theorem inherits_of_eq {d d' : Db} (h : d'.val.events = d.val.events) : Inherits d d' :=
  fun e he => ⟨e, h ▸ he, rfl⟩

theorem inherits_filter {d d' : Db} {p : EventRow → Bool}
    (h : d'.val.events = d.val.events.filter p) : Inherits d d' := by
  intro e he
  rw [h] at he
  exact ⟨e, List.mem_of_mem_filter he, rfl⟩

theorem inherits_updateWhere {d d' : Db} {p : EventRow → Bool} {f : EventRow → EventRow}
    (h : d'.val.events = updateWhere p f d.val.events) (hf : ∀ e, stamps (f e) = stamps e) :
    Inherits d d' := by
  intro e' he'
  rw [h] at he'
  rcases cases_of_mem_updateWhere he' with ⟨he, -⟩ | ⟨e, he, -, rfl⟩
  · exact ⟨e', he, rfl⟩
  · exact ⟨e, he, hf e⟩

/-! ## The writes of the edits -/

theorem inherits_setFieldsAndClasses (eventId : Nat) (fields : EventFields)
    (mappings : List ClassMappingRequest) :
    Moves Inherits (setFieldsAndClasses eventId fields mappings) := by
  unfold setFieldsAndClasses setFields
  refine moves_transaction (moves_bind (moves_exec fun d _ => ?_) fun _ => ?_)
  · exact inherits_updateWhere rfl fun _ => rfl
  · refine moves_bind (moves_query _) fun existing => moves_forM fun m _ => ?_
    unfold upsertEventClass insertEventClass
    cases (existing.filter fun r => decide (r.classId = m.classId)).getLast? with
    | none => exact moves_exec fun _ _ => inherits_of_eq rfl
    | some row => exact moves_exec fun _ _ => inherits_of_eq rfl

theorem inherits_updateEvent (eventId : Nat) (fields : EventFields) :
    Moves Inherits (TenantRepository.updateEvent eventId fields) := by
  unfold TenantRepository.updateEvent setFields
  refine moves_bind (moves_exec fun d _ => ?_) fun _ => moves_query _
  exact inherits_updateWhere rfl fun _ => rfl

theorem inherits_updateSubsidy (eventId : Nat) (amount : Money) :
    Moves Inherits (TenantRepository.updateSubsidy eventId amount) := by
  unfold TenantRepository.updateSubsidy
  exact moves_exec fun _ _ => inherits_updateWhere rfl fun _ => rfl

theorem inherits_createNotification (i r : Nat) (title : Option String) :
    Moves Inherits (createNotification i r title) := by
  unfold createNotification
  exact moves_exec fun _ _ => inherits_of_eq rfl

/-- A new event is a draft without stamps. -/
theorem stamped_insertWithClasses (fields : EventFields) (createdBy : Nat)
    (mappings : List ClassMappingRequest) (now : Timestamp) :
    Moves (Keeps WellStamped) (insertWithClasses fields createdBy mappings now) := by
  unfold insertWithClasses insertEvent
  refine moves_transaction (moves_bind (moves_bind (moves_query _) fun id =>
    moves_bind (moves_exec fun d _ => ?_) fun _ => moves_pure _) fun _ => ?_)
  · intro hstamped e he
    rcases List.mem_append.1 he with he | he
    · exact hstamped e he
    · rw [List.mem_singleton] at he
      subst he
      exact ⟨by simp, by simp, by simp⟩
  · refine moves_bind (moves_forM fun m _ => ?_) fun _ => moves_pure _
    unfold insertEventClass
    exact moves_exec fun _ _ => (inherits_of_eq rfl).keeps

/-! ## The deletions -/

theorem inherits_deleteEvent (u : Authz.CurrentUser) (eventId : Nat) :
    Moves Inherits (School.EventsRouter.deleteEvent u eventId) := by
  unfold School.EventsRouter.deleteEvent School.EventService.deleteEvent
  refine moves_bind (moves_raiseIf _ _) fun _ => moves_bind (moves_bind (moves_query _) fun e => ?_)
    fun _ => moves_raiseIf _ _
  cases e with
  | none => exact moves_pure _
  | some e =>
    refine moves_bind (moves_exec fun d _ => ?_) fun _ => moves_pure _
    exact inherits_filter rfl

theorem inherits_setEvents {f : EventRow → EventRow} (hf : ∀ e, stamps (f e) = stamps e) :
    Moves Inherits (stmt fun t => t.setEvents f) := by
  refine moves_exec fun d _ e' he' => ?_
  obtain ⟨e, he, rfl⟩ := List.mem_map.1 he'
  exact ⟨e, he, hf e⟩

theorem inherits_deleteUser (u : Authz.CurrentUser) (userId : Nat) :
    Moves Inherits (AuthRouter.deleteUser u userId) := by
  unfold AuthRouter.deleteUser School.TenantService.deleteTenantUser
  refine moves_bind (moves_raiseIf _ _) fun _ => moves_bind (moves_raiseIf _ _) fun _ =>
    moves_bind (moves_query _) fun target => ?_
  cases target with
  | none => exact moves_throw _
  | some target =>
    refine moves_bind (moves_raiseIf _ _) fun _ => moves_bind (moves_raiseIf _ _) fun _ =>
      moves_bind ?_ fun deleted => ?_
    · unfold UserRepository.deleteUser
      refine moves_transaction (moves_bind (moves_query _) fun row => ?_)
      cases row with
      | none => exact moves_pure _
      | some row =>
        refine moves_bind (inherits_setEvents fun _ => rfl) fun _ =>
          moves_bind (inherits_setEvents fun _ => rfl) fun _ =>
          moves_bind (moves_rescue ?_ fun _ => moves_throw _) fun _ => moves_pure _
        unfold UserRepository.deleteUserRow
        refine moves_bind (moves_query _) fun _ => moves_bind (moves_raiseIf _ _) fun _ => ?_
        exact moves_exec fun d _ => inherits_filter rfl
    · cases deleted with
      | none => exact moves_throw _
      | some deleted => exact moves_pure _

/-! ## The writes of the workflow -/

/-- The four kinds of transition, the action `submit` apart. -/
theorem transitions_cases {found next : EventStatus} {action : EventAction} {role : String}
    (h : transitions found action = some (next, role)) (hsubmit : action ≠ .submit) :
    (found = .draft ∧ next = .proposed ∧ action ∈ submitting) ∨
      (found = .proposed ∧ next = .approved ∧ action ∈ approving) ∨
      (found = .proposed ∧ next = .draft ∧ action ∈ rejecting) ∨
      (found = .approved ∧ next = .published ∧ action ∈ publishing) := by
  unfold transitions at h
  split at h <;> simp_all [submitting, approving, rejecting, publishing]

theorem published_of_submit {found next : EventStatus} {role : String}
    (h : transitions found .submit = some (next, role)) : next = .published := by
  unfold transitions at h
  split at h <;> simp_all

/-- The lists of actions are apart. -/
theorem actions_apart {action : EventAction} :
    (action ∈ approving → action ∉ rejecting ∧ action ∉ publishing) ∧
      (action ∈ rejecting → action ∉ publishing) ∧
      (action ∈ submitting → action ∉ approving ∧ action ∉ rejecting ∧ action ∉ publishing) := by
  refine ⟨fun h => ?_, fun h => ?_, fun h => ?_⟩ <;>
    simp only [approving, rejecting, submitting, List.mem_cons, List.not_mem_nil, or_false] at h <;>
    rcases h with rfl | rfl | rfl | rfl <;> simp [approving, rejecting, publishing]

/-- The write of a transition that finds a stamped event leaves it stamped. -/
theorem stamped_write {found next : EventStatus} {action : EventAction} {role : String}
    {fields : UpdateFields} {now : Timestamp} (h : transitions found action = some (next, role))
    (hsubmit : action ≠ .submit) (hfields : fields.For next action now) {e : EventRow}
    (he : Stamped e) (hfound : e.status = found) (reviewer : Option Nat) :
    Stamped (fields.write reviewer e) := by
  obtain ⟨hstatus, happroved, hpublished, hreason⟩ := hfields
  obtain ⟨hepublished, heapproved, -⟩ := he
  rw [hfound] at hepublished heapproved
  unfold UpdateFields.write
  rcases transitions_cases h hsubmit with ⟨rfl, rfl, haction⟩ | ⟨rfl, rfl, haction⟩ |
    ⟨rfl, rfl, haction⟩ | ⟨rfl, rfl, haction⟩
  · obtain ⟨hnot, hnot', hnot''⟩ := actions_apart.2.2 haction
    rw [if_neg hnot''] at hpublished
    refine ⟨?_, ?_, fun hsome => absurd (hreason hsome) hnot'⟩
    · simpa [hstatus, hpublished] using hepublished
    · simp [hstatus]
  · obtain ⟨hnot', hnot''⟩ := actions_apart.1 haction
    rw [if_pos haction] at happroved
    rw [if_neg hnot''] at hpublished
    refine ⟨?_, ?_, fun hsome => absurd (hreason hsome) hnot'⟩
    · simpa [hstatus, hpublished] using hepublished
    · simp [happroved]
  · rw [if_neg (actions_apart.2.1 haction)] at hpublished
    refine ⟨?_, ?_, fun _ => hstatus⟩
    · simpa [hstatus, hpublished] using hepublished
    · simp [hstatus]
  · rw [if_pos haction] at hpublished
    refine ⟨?_, fun _ => ?_, fun hsome => ?_⟩
    · simp [hstatus, hpublished]
    · rw [Option.isSome_or, heapproved (.inl rfl), Bool.or_true]
    · exact absurd haction (actions_apart.2.1 (hreason hsome))

/-- What a status write takes for granted: the status that was read, and, of a call that uses the
action `submit`, that it does not publish. -/
def StatusFound (submits : Bool) : Mark → Db → Prop
  | .status eventId found next, d =>
    statusOf d eventId = some found ∧ ¬(submits = true ∧ next = .published)
  | _, _ => True

instance (submits : Bool) (mark : Mark) (d : Db) : Decidable (StatusFound submits mark d) := by
  induction mark using Mark.casesOn <;> unfold StatusFound <;> infer_instance

theorem keeps_stamped_write {eventId : Nat} {found next : EventStatus} {action : EventAction}
    {role : String} {fields : UpdateFields} {now : Timestamp} {submits : Bool}
    (h : transitions found action = some (next, role)) (hsubmit : action = .submit → submits = true)
    (hfields : fields.For next action now) :
    (Proc.marked (.status eventId found next) (updateEventStatus eventId fields) : Task Unit).Keeps
      (StatusFound submits) (fun _ => Keeps WellStamped) := by
  refine Proc.keeps_marked (fun d hfound a d' hm => ?_) fun d _ e d' hm => ?_
  · have haction : action ≠ .submit := by
      rintro rfl
      exact hfound.2 ⟨hsubmit rfl, (published_of_submit h)⟩
    rcases updateEventStatus_cases eventId fields with ⟨reviewer, hcase⟩ | hcase
    · rw [hcase] at hm
      unfold writeEventStatus at hm
      intro hstamped e' he'
      rw [exec_eq_ok.1 hm] at he'
      rcases cases_of_mem_updateWhere he' with ⟨he, -⟩ | ⟨e, he, hid, rfl⟩
      · exact hstamped e' he
      · refine stamped_write h haction hfields (hstamped e he) ?_ reviewer
        exact status_of_mem hfound.1 he (by simpa using hid)
    · rw [hcase] at hm
      exact (throw_eq_ok.1 hm).elim
  · rw [updateEventStatus_error hm]
    exact refl_of _ d

/-- The stamps are kept by any program that leaves them alone. -/
theorem keeps_of_inherits {H : Mark → Db → Prop} {α : Type} {m : Prog α} (h : Moves Inherits m) :
    (Proc.once m : Task α).Keeps H fun _ => Keeps WellStamped :=
  Proc.keeps_once (h.mono fun _ _ h => h.keeps)

theorem keeps_marked_of_inherits {H : Mark → Db → Prop} {α : Type} {mark : Mark} {m : Prog α}
    (h : Moves Inherits m) : (Proc.marked mark m : Task α).Keeps H fun _ => Keeps WellStamped := by
  refine Proc.keeps_marked (fun d _ a d' hm => ?_) fun d _ e d' hm => ?_
  · exact (after_ok hm ▸ h d : Inherits d d').keeps
  · exact (after_error hm ▸ h d : Inherits d d').keeps

theorem allows_stamped (eventId : Nat) {action : EventAction} (now : Timestamp) {submits : Bool}
    (h : action = .submit → submits = true) :
    Allows (StatusFound submits) (fun _ => Keeps WellStamped) eventId action now where
  refl d := refl_of _ d
  notify _ _ := keeps_of_inherits (inherits_createNotification _ _ _)
  announce _ _ _ _ := keeps_marked_of_inherits (inherits_createNotification _ _ _)
  write _ _ _ _ htransition hfields := keeps_stamped_write htransition h hfields

theorem allowsEdits_stamped (H : Mark → Db → Prop) (eventId : Nat) :
    AllowsEdits H (fun _ => Keeps WellStamped) eventId fun _ => True where
  refl d := refl_of _ d
  set _ _ _ := keeps_marked_of_inherits (inherits_setFieldsAndClasses _ _ _)
  keep _ _ := keeps_marked_of_inherits (inherits_setFieldsAndClasses _ _ _)
  patch _ := keeps_marked_of_inherits (inherits_updateEvent _ _)
  subsidy _ _ := keeps_marked_of_inherits (inherits_updateSubsidy _ _)

theorem allowsNew_stamped (H : Mark → Db → Prop) : AllowsNew H fun _ => Keeps WellStamped where
  refl d := refl_of _ d
  insert _ _ _ _ := Proc.keeps_once (stamped_insertWithClasses _ _ _ _)
  notify _ _ _ := keeps_of_inherits (inherits_createNotification _ _ _)
  clear i := by
    unfold deleteResourcesForEvent
    exact keeps_of_inherits (moves_exec fun _ _ => inherits_of_eq rfl)
  resource i u := by
    unfold createResource
    exact keeps_of_inherits (moves_exec fun _ _ => inherits_of_eq rfl)

/-! ## Requests -/

/-- A request that may write an event. -/
inductive Request where
  | create (actor : Actor) (payload : EventCreateRequest) (now : Timestamp)
  | clone (actor : Actor) (eventId : Nat) (now : Timestamp)
  | update (actor : Actor) (eventId : Nat) (payload : EventCreateRequest)
  | patch (actor : Actor) (eventId : Nat) (payload : EventPatchRequest)
  | audience (actor : Actor) (eventId : Nat) (payload : AudienceSelect)
  | subsidy (actor : Actor) (eventId : Nat) (amount : Money)
  | submit (actor : Actor) (eventId : Nat) (now : Timestamp)
  | managerDecision (actor : Actor) (eventId : Nat) (decision : Decision) (reason : Option String)
      (now : Timestamp)
  | publish (actor : Actor) (eventId : Nat) (now : Timestamp)
  | eventTeacherDecision (actor : Actor) (eventId : Nat) (decision : Decision)
      (reason : Option String) (now : Timestamp)
  /-- A call of the service itself, with any action. -/
  | transition (eventId : Nat) (call : TransitionCall)
  | deleteEvent (user : Authz.CurrentUser) (eventId : Nat)
  /-- The events of a user go with the user. -/
  | deleteUser (user : Authz.CurrentUser) (userId : Nat)

namespace Request

/-- The program of a request, its answer dropped. A deletion is one action. -/
def program : Request → Task Unit
  | create actor payload now => (fun _ => ()) <$> EventsRouter.createEvent actor payload now
  | clone actor i now => (fun _ => ()) <$> EventsRouter.cloneEventEndpoint actor i now
  | update actor i payload => (fun _ => ()) <$> EventsRouter.updateEvent actor i payload
  | patch actor i payload => (fun _ => ()) <$> EventsRouter.patchEvent actor i payload
  | audience actor i payload => (fun _ => ()) <$> EventsRouter.selectAudience actor i payload
  | subsidy actor i amount => (fun _ => ()) <$> EventsRouter.updateEventSubsidy actor i amount
  | submit actor i now => (fun _ => ()) <$> EventsRouter.submitEvent actor i now
  | managerDecision actor i decision reason now =>
    (fun _ => ()) <$> EventsRouter.managerDecision actor i decision reason now
  | publish actor i now => (fun _ => ()) <$> EventsRouter.teacherPublishEvent actor i now
  | eventTeacherDecision actor i decision reason now =>
    (fun _ => ()) <$> EventsRouter.eventTeacherDecision actor i decision reason now
  | transition i call => (fun _ => ()) <$> call.program i
  | deleteEvent user i => Proc.once (School.EventsRouter.deleteEvent user i)
  | deleteUser user i => (fun _ => ()) <$> Proc.once (AuthRouter.deleteUser user i)

/-- The request is a call with the action `submit`. -/
def submits : Request → Bool
  | transition _ call => call.action = .submit
  | _ => false

/-- Every request keeps the stamps, where its status write finds the status that was read and does
not publish by `submit`. -/
theorem keeps_stamped (r : Request) :
    r.program.Keeps (StatusFound r.submits) fun _ => Keeps WellStamped := by
  have hedits := allowsEdits_stamped (StatusFound r.submits)
  have hnew := allowsNew_stamped (StatusFound r.submits)
  cases r with
  | create actor payload now => exact Proc.keeps_map (keeps_createEventRoute hnew _ _ _)
  | clone actor i now => exact Proc.keeps_map (keeps_cloneEventEndpoint hnew _ _ _)
  | update actor i payload => exact Proc.keeps_map (keeps_updateEvent (hedits i) fun _ => trivial)
  | patch actor i payload => exact Proc.keeps_map (keeps_patchEvent (hedits i) _ _)
  | audience actor i payload => exact Proc.keeps_map (keeps_selectAudience (hedits i) _ _)
  | subsidy actor i amount =>
    exact Proc.keeps_map (keeps_updateEventSubsidy (hedits i) fun _ => trivial)
  | submit actor i now =>
    exact Proc.keeps_map (keeps_submitEvent (fun action h =>
      allows_stamped i now fun hsubmit => absurd hsubmit h) actor)
  | managerDecision actor i decision reason now =>
    exact Proc.keeps_map (keeps_managerDecision (fun action h =>
      allows_stamped i now fun hsubmit => absurd hsubmit h) actor _ _)
  | publish actor i now =>
    exact Proc.keeps_map (keeps_teacherPublishEvent (fun action h =>
      allows_stamped i now fun hsubmit => absurd hsubmit h) actor)
  | eventTeacherDecision actor i decision reason now =>
    exact Proc.keeps_map (keeps_eventTeacherDecision (fun action h =>
      allows_stamped i now fun hsubmit => absurd hsubmit h) actor _ _)
  | transition i call =>
    refine Proc.keeps_map (keeps_transitionEvent (allows_stamped i call.now fun hsubmit => ?_) _ _)
    simp [submits, hsubmit]
  | deleteEvent user i => exact keeps_of_inherits (inherits_deleteEvent user i)
  | deleteUser user i => exact Proc.keeps_map (keeps_of_inherits (inherits_deleteUser user i))

end Request

/-! ## Along any relation -/

/-- What a request takes for granted at its writes does not matter here. -/
abbrev Anything : Mark → Db → Prop := fun _ _ => True

/-- What a relation allows when every request may write along it. -/
structure Writable (R : Db → Db → Prop) : Prop where
  status :
    ∀ {found next : EventStatus} {action : EventAction} {role : String} {fields : UpdateFields}
        (eventId : Nat),
    transitions found action = some (next, role) → fields.status = next →
      Moves R (updateEventStatus eventId fields)
  set : ∀ eventId fields mappings, Moves R (setFieldsAndClasses eventId fields mappings)
  patch : ∀ eventId fields, Moves R (TenantRepository.updateEvent eventId fields)
  subsidy : ∀ eventId amount, Moves R (TenantRepository.updateSubsidy eventId amount)
  insert : ∀ fields createdBy mappings now,
    Moves R (insertWithClasses fields createdBy mappings now)
  notify : ∀ eventId r title, Moves R (createNotification eventId r title)
  clear : ∀ eventId, Moves R (deleteResourcesForEvent eventId)
  resource : ∀ eventId u, Moves R (createResource eventId u)
  deleteEvent : ∀ user eventId, Moves R (School.EventsRouter.deleteEvent user eventId)
  deleteUser : ∀ user userId, Moves R (AuthRouter.deleteUser user userId)

section Writable

variable {R : Db → Db → Prop} [IsPreorder Db R]

omit [IsPreorder Db R] in
theorem keeps_once_of_moves {α : Type} {m : Prog α} (h : Moves R m) :
    (Proc.once m : Task α).Keeps Anything fun _ => R := Proc.keeps_once h

omit [IsPreorder Db R] in
theorem keeps_marked_of_moves {α : Type} {mark : Mark} {m : Prog α} (h : Moves R m) :
    (Proc.marked mark m : Task α).Keeps Anything fun _ => R := by
  refine Proc.keeps_marked (fun d _ a d' hm => ?_) fun d _ e d' hm => ?_
  · exact after_ok hm ▸ h d
  · exact after_error hm ▸ h d

theorem Writable.allows (h : Writable R) (eventId : Nat) (action : EventAction) (now : Timestamp) :
    Allows Anything (fun _ => R) eventId action now where
  refl d := refl_of _ d
  notify _ _ := keeps_once_of_moves (h.notify _ _ _)
  announce _ _ _ _ := keeps_marked_of_moves (h.notify _ _ _)
  write _ _ _ _ htransition hfields :=
    keeps_marked_of_moves (h.status eventId htransition hfields.status)

theorem Writable.allowsEdits (h : Writable R) (eventId : Nat) :
    AllowsEdits Anything (fun _ => R) eventId fun _ => True where
  refl d := refl_of _ d
  set _ _ _ := keeps_marked_of_moves (h.set _ _ _)
  keep _ _ := keeps_marked_of_moves (h.set _ _ _)
  patch _ := keeps_marked_of_moves (h.patch _ _)
  subsidy _ _ := keeps_marked_of_moves (h.subsidy _ _)

theorem Writable.allowsNew (h : Writable R) : AllowsNew Anything fun _ => R where
  refl d := refl_of _ d
  insert _ _ _ _ := keeps_once_of_moves (h.insert _ _ _ _)
  notify _ _ _ := keeps_once_of_moves (h.notify _ _ _)
  clear _ := keeps_once_of_moves (h.clear _)
  resource _ _ := keeps_once_of_moves (h.resource _ _)

/-- **Every request** writes along the relation. -/
theorem Writable.request (h : Writable R) (r : Request) : r.program.Keeps Anything fun _ => R := by
  have hedits := h.allowsEdits
  have hnew := h.allowsNew
  cases r with
  | create actor payload now => exact Proc.keeps_map (keeps_createEventRoute hnew _ _ _)
  | clone actor i now => exact Proc.keeps_map (keeps_cloneEventEndpoint hnew _ _ _)
  | update actor i payload => exact Proc.keeps_map (keeps_updateEvent (hedits i) fun _ => trivial)
  | patch actor i payload => exact Proc.keeps_map (keeps_patchEvent (hedits i) _ _)
  | audience actor i payload => exact Proc.keeps_map (keeps_selectAudience (hedits i) _ _)
  | subsidy actor i amount =>
    exact Proc.keeps_map (keeps_updateEventSubsidy (hedits i) fun _ => trivial)
  | submit actor i now =>
    exact Proc.keeps_map (keeps_submitEvent (fun _ _ => h.allows i _ now) actor)
  | managerDecision actor i decision reason now =>
    exact Proc.keeps_map (keeps_managerDecision (fun _ _ => h.allows i _ now) actor _ _)
  | publish actor i now =>
    exact Proc.keeps_map (keeps_teacherPublishEvent (fun _ _ => h.allows i _ now) actor)
  | eventTeacherDecision actor i decision reason now =>
    exact Proc.keeps_map (keeps_eventTeacherDecision (fun _ _ => h.allows i _ now) actor _ _)
  | transition i call => exact Proc.keeps_map (keeps_transitionEvent (h.allows i _ call.now) _ _)
  | deleteEvent user i => exact keeps_once_of_moves (h.deleteEvent user i)
  | deleteUser user i => exact Proc.keeps_map (keeps_once_of_moves (h.deleteUser user i))

end Writable

section Runs

variable {ι : Type} [DecidableEq ι]

/-- Requests of all kinds, any number of them, at their start. -/
def requesting (d : Db) (requests : ι → Request) : Pool ι Mark PyError Db Unit :=
  .start d fun i => (requests i).program

/-- **The stamps agree throughout.** -/
theorem stamped_run {d : Db} (hd : WellStamped d) (requests : ι → Request) {is : List ι}
    (h : EachStep Pool.step (fun P i => P.Undisturbed (fun i => StatusFound (requests i).submits) i)
      (requesting d requests) is) :
    Throughout Pool.step (fun P => WellStamped P.state) (requesting d requests) is := by
  let I : Pool ι Mark PyError Db Unit → Prop := fun P =>
    P.Keeping (fun i => StatusFound (requests i).submits) (fun _ _ => Keeps WellStamped) ∧
      WellStamped P.state
  have hstart : I (requesting d requests) :=
    ⟨Pool.keeping_start fun i => (requests i).keeps_stamped, hd⟩
  refine (run_throughout (I := I) (fun P i hP hi => ?_) hstart h).mono fun P hP => hP.2
  obtain ⟨hkeeping, hG⟩ := hP.1.step (fun _ => refl_of (Keeps WellStamped)) hi
  exact ⟨hkeeping, hG hP.2⟩

end Runs

end Sams.Trips
