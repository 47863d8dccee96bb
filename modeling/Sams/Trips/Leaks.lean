import Sams.Trips.Privacy

/-!
# Which event routes tell the amounts

The routes that list, read and create events and the one that selects the audience tell nothing
about the amounts to who may not set them. The other routes answer with the event as it is stored.

**`private_iff`**: for an actor who may not set the subsidy, a route answers the same in any two
states that differ in the amounts only if and only if it is one of the first kind or lets no request
of this actor through.
-/

namespace Sams.Trips

open School Programs Rows Runs Interleaving TenantRepository TenantService

/-! ## Routes -/

/-- The routes on events. -/
inductive Route where
  | list
  | get
  | create
  | clone
  | update
  | patch
  | audience
  | submit
  | managerDecision
  | publish
  | eventTeacherDecision
  deriving DecidableEq, Repr

/-- What a route is called with. -/
inductive EventCall where
  | list
  | get (eventId : Nat)
  | create (payload : EventCreateRequest) (now : Timestamp)
  | clone (eventId : Nat) (now : Timestamp)
  | update (eventId : Nat) (payload : EventCreateRequest)
  | patch (eventId : Nat) (payload : EventPatchRequest)
  | audience (eventId : Nat) (payload : AudienceSelect)
  | submit (eventId : Nat) (now : Timestamp)
  | managerDecision (eventId : Nat) (decision : Decision) (reason : Option String) (now : Timestamp)
  | publish (eventId : Nat) (now : Timestamp)
  | eventTeacherDecision (eventId : Nat) (decision : Decision) (reason : Option String)
      (now : Timestamp)

def EventCall.route : EventCall → Route
  | list => .list
  | get _ => .get
  | create _ _ => .create
  | clone _ _ => .clone
  | update _ _ => .update
  | patch _ _ => .patch
  | audience _ _ => .audience
  | submit _ _ => .submit
  | managerDecision _ _ _ _ => .managerDecision
  | publish _ _ => .publish
  | eventTeacherDecision _ _ _ _ => .eventTeacherDecision

/-- The body of an answer. -/
inductive Answer where
  | event (event : EventResponse)
  | events (events : List EventResponse)
  | attendance (n : Nat)
  deriving DecidableEq, Repr

/-- The program of a call. -/
def EventCall.program (actor : Actor) : EventCall → Task Answer
  | list => .events <$> EventsRouter.listEvents actor
  | get i => .event <$> EventsRouter.getEvent actor i
  | create payload now => .event <$> EventsRouter.createEvent actor payload now
  | clone i now => .event <$> EventsRouter.cloneEventEndpoint actor i now
  | update i payload => .event <$> EventsRouter.updateEvent actor i payload
  | patch i payload => .event <$> EventsRouter.patchEvent actor i payload
  | audience i payload => .attendance <$> EventsRouter.selectAudience actor i payload
  | submit i now => .event <$> EventsRouter.submitEvent actor i now
  | managerDecision i decision reason now =>
    .event <$> EventsRouter.managerDecision actor i decision reason now
  | publish i now => .event <$> EventsRouter.teacherPublishEvent actor i now
  | eventTeacherDecision i decision reason now =>
    .event <$> EventsRouter.eventTeacherDecision actor i decision reason now

/-- What the actor is answered: a body or an error. -/
def EventCall.answer (actor : Actor) (call : EventCall) (d : Db) : Except PyError Answer :=
  outcome (call.program actor).seq d

/-- The route answers the actor the same in any two states that differ in the amounts only. -/
def Private (route : Route) (actor : Actor) : Prop :=
  ∀ call : EventCall, call.route = route → ∀ d d', SamePublic d d' →
    call.answer actor d = call.answer actor d'

/-! ## Who gets through -/

/-- The actor may edit a draft that is their own. -/
def EditsDrafts (actor : Actor) : Prop :=
  (actor.isOneOf ["teacher", "event_teacher"] = true ∨ "event:edit" ∈ actor.roles) ∧
    ∃ n : Nat, actor.id.toInt = .ok n

/-- The actor may submit a draft that is their own. -/
def SubmitsDrafts (actor : Actor) : Prop :=
  (actor.user.hasAnyRole ["teacher", "school_admin"] = true ∨
    actor.user.hasRole "event:submit" = true) ∧
  actor.isOneOf (allowedFor .submitForApproval "teacher") = true ∧
  ∃ n : Nat, actor.id.toInt = .ok n

/-- A route that answers with the event as it is stored lets some request of the actor through, who
may not set the subsidy. -/
def Tells (actor : Actor) : Route → Prop
  | .clone => actor.user.hasAnyRole ["school_admin", "teacher"] = true ∧
      Authz.require actor.user.roles ["school_admin", "teacher"] = true ∧ ∃ n, actor.id = .number n
  | .update =>
    actor.user.hasAnyRole ["school_admin", "teacher", "event_teacher", "manager"] = true ∧
      EditsDrafts actor ∧ ("event_teacher" ∈ actor.user.roles ∨
        "teacher" ∈ actor.user.roles ∧ ∃ n, actor.id = .number n)
  | .patch => (Text.nonEmpty actor.user.tenantId).isSome ∧ EditsDrafts actor
  | .submit => (Text.nonEmpty actor.user.tenantId).isSome ∧ (SubmitsDrafts actor ∨
      actor.user.hasAnyRole ["teacher", "school_admin", "manager"] = true ∧
        actor.isOneOf (allowedFor .teacherPublish "teacher") = true)
  | .managerDecision => (Text.nonEmpty actor.user.tenantId).isSome ∧
      actor.isOneOf (allowedFor .managerReject "manager") = true
  | .publish => (Text.nonEmpty actor.user.tenantId).isSome ∧
      actor.user.hasAnyRole
        ["teacher", "event_teacher", "manager", "school_admin", "super_admin"] = true ∧
      actor.isOneOf (allowedFor .teacherPublish "teacher") = true
  | _ => False

/-! ### What a request needs to get through -/

section Requires

variable {actor : Actor}

theorem requires_ofExcept_bind {α β : Type} {P : Prop} {x : Except PyError α} {f : α → Task β}
    (h : ∀ a, x = .ok a → (f a).Requires P) : (ofExcept x >>= f).Requires P := by
  cases x with
  | ok a => exact h a rfl
  | error e => exact Proc.gives_fail e

/-- An event is there, or nothing comes of the request. -/
theorem requires_getEventById_bind {α : Type} {P : Prop} {i : Nat} {f : Option Event → Task α}
    (hnone : (f none).Requires P) (hsome : ∀ event, (f (some event)).Requires P) :
    (getEventById i >>= f).Requires P :=
  Proc.requires_bind fun event => by
    cases event with
    | none => exact hnone
    | some event => exact hsome event

theorem mem_roles_isOneOf {names : List String} : actor.isOneOf names = true ↔
    ∃ r ∈ actor.roles, r ∈ names := by
  unfold Actor.isOneOf
  simp

/-- Who may not set the subsidy does not manage the school. -/
theorem not_manages (h : ¬MaySet actor) :
    ¬actor.isOneOf ["super_admin", "school_admin", "admin", "*"] = true := by
  intro hmanages
  obtain ⟨r, hr, hname⟩ := mem_roles_isOneOf.1 hmanages
  have hname : r = "super_admin" ∨ r = "school_admin" ∨ r = "admin" ∨ r = "*" := by
    simpa using hname
  have hheld : r ∈ actor.user.held :=
    mem_held hr (by rcases hname with rfl | rfl | rfl | rfl <;> decide)
  refine h ?_
  have hadmin : actor.user.hasRole "school_admin" = true := by
    unfold Authz.CurrentUser.hasRole
    rcases hname with rfl | rfl | rfl | rfl
    · rw [if_pos (.inl hheld)]
    · simp [hheld]
    · simp [hheld]
    · rw [if_pos (.inr hheld)]
  unfold MaySet Authz.CurrentUser.hasAnyRole
  simp [hadmin]

theorem not_manager (h : ¬MaySet actor) : ¬actor.user.hasRole "manager" = true := by
  intro hmanager
  refine h ?_
  unfold MaySet Authz.CurrentUser.hasAnyRole
  simp [hmanager]

/-- Such an actor may edit a draft that is their own, and nothing else. -/
theorem isEditable_iff (h : ¬MaySet actor) {row : EventRow} :
    EventService.isEditable actor row = .ok true ↔
      row.status = .draft ∧ actor.id.toInt = .ok (row.createdBy : Int) ∧
        (actor.isOneOf ["teacher", "event_teacher"] = true ∨ "event:edit" ∈ actor.roles) := by
  have hmanages := not_manages h
  have hprivileged := not_privileged h
  unfold EventService.isEditable checkEventPermission
  cases actor.id.toInt with
  | error e => simp [bind, Except.bind]
  | ok k =>
    simp only [bind, Except.bind, pure, Except.pure, if_neg hmanages]
    by_cases hdraft : row.status = .draft
    · by_cases howner : (row.createdBy : Int) = k
      · subst howner
        by_cases hteaches : actor.isOneOf ["teacher", "event_teacher"] = true <;>
          by_cases hedit : "event:edit" ∈ actor.roles <;>
            simp [hdraft, hteaches, hedit, hprivileged]
      · have hk : ¬k = row.createdBy := fun hk => howner hk.symm
        simp [hdraft, howner, hk, hprivileged]
    · simp [hdraft, hprivileged]

theorem requires_cloneEventEndpoint (eventId : Nat) (now : Timestamp) :
    (EventsRouter.cloneEventEndpoint actor eventId now).Requires (Tells actor .clone) := by
  unfold EventsRouter.cloneEventEndpoint
  refine Proc.requires_failIf_bind fun hrole => Proc.Gives.wrap (Proc.Requires.bind ?_ _) _
  unfold cloneEvent
  refine Proc.requires_failIf_bind fun hrequire => requires_getEventById_bind (Proc.gives_fail _)
    fun original => Proc.Requires.bind ?_ _
  unfold TenantService.createEvent
  refine Proc.requires_bind fun _ => Proc.Requires.bind ?_ _
  unfold TenantRepository.createEvent
  refine requires_ofExcept_bind fun createdBy hid => Proc.requires_of ?_ _
  refine ⟨not_not.1 hrole, not_not.1 hrequire, createdBy, ?_⟩
  unfold ParsedId.column at hid
  cases hactor : actor.id with
  | number n =>
    rw [hactor] at hid
    cases hid
    rfl
  | other asInt =>
    rw [hactor] at hid
    cases hid

theorem requires_updateEvent (h : ¬MaySet actor) (eventId : Nat) (payload : EventCreateRequest) :
    (EventsRouter.updateEvent actor eventId payload).Requires (Tells actor .update) := by
  unfold EventsRouter.updateEvent
  refine Proc.requires_failIf_bind fun hrole => Proc.Gives.wrap ?_ _
  refine requires_getEventById_bind (Proc.gives_fail _) fun event => ?_
  unfold EventService.requireEditable
  dsimp only
  rw [bind_assoc]
  refine requires_ofExcept_bind fun editable heditable => ?_
  refine Proc.requires_failIf_bind fun hnot => Proc.Requires.bind ?_ _
  have heditable : EventService.isEditable actor event.row = .ok true := by
    rw [heditable, not_not.1 hnot]
  obtain ⟨-, howner, hteaches⟩ := (isEditable_iff h).1 heditable
  have hroles : ∀ r ∈ actor.user.roles, r ∈ EventService.privileged → False := by
    intro r hr hprivileged
    refine not_privileged h (mem_roles_isOneOf.2 ⟨r, ?_, hprivileged⟩)
    unfold Actor.roles
    rw [if_neg (List.ne_nil_of_mem hr)]
    exact hr
  unfold TenantService.updateEventFull ownMappings
  refine Proc.Requires.bind (Proc.gives_ite (fun hstaff => Proc.requires_of ?_ _) fun _ =>
    Proc.gives_ite (fun hteacher => ?_) fun _ => Proc.gives_fail _) _
  · rcases hstaff with hadmin | hteacher | hmanager
    · exact (hroles _ hadmin (by decide)).elim
    · exact ⟨not_not.1 hrole, ⟨hteaches, _, howner⟩, .inl hteacher⟩
    · exact (hroles _ hmanager (by decide)).elim
  · refine requires_ofExcept_bind fun userId hid => Proc.requires_of ?_ _
    refine ⟨not_not.1 hrole, ⟨hteaches, _, howner⟩, .inr ⟨hteacher, userId, ?_⟩⟩
    unfold ParsedId.column at hid
    cases hactor : actor.id with
    | number n =>
      rw [hactor] at hid
      cases hid
      rfl
    | other asInt =>
      rw [hactor] at hid
      cases hid

theorem requires_patchEvent (h : ¬MaySet actor) (eventId : Nat) (payload : EventPatchRequest) :
    (EventsRouter.patchEvent actor eventId payload).Requires (Tells actor .patch) := by
  unfold EventsRouter.patchEvent EventsRouter.requireTenant
  refine Proc.requires_failIf_bind fun htenant => Proc.Gives.wrap ?_ _
  refine requires_getEventById_bind (Proc.gives_fail _) fun event => ?_
  refine requires_ofExcept_bind fun editable heditable => ?_
  refine Proc.requires_failIf_bind fun hnot => Proc.requires_of ?_ _
  have heditable : EventService.isEditable actor event.row = .ok true := by
    rw [heditable, not_not.1 hnot]
  obtain ⟨-, howner, hteaches⟩ := (isEditable_iff h).1 heditable
  exact ⟨by simpa [Option.isSome_iff_ne_none] using htenant, hteaches, _, howner⟩

/-- A transition is made by who the table names or permits. -/
theorem requires_transitionEvent {P : Prop} {eventId : Nat} {action : EventAction}
    {reason : Option String} {now : Timestamp}
    (h : ∀ (event : Event) next role, transitions event.row.status action = some (next, role) →
      actor.isOneOf (allowedFor action role) = true →
      (checkPreconditions event action actor reason).Requires P) :
    (transitionEvent eventId action actor reason now).Requires P := by
  unfold transitionEvent
  refine requires_getEventById_bind (Proc.gives_fail _) fun event => ?_
  dsimp only
  cases htransition : transitions event.row.status action with
  | none => exact Proc.gives_fail _
  | some target =>
    obtain ⟨next, role⟩ := target
    refine Proc.requires_failIf_bind fun hrole => Proc.Requires.bind ?_ _
    exact h event next role htransition (not_not.1 hrole)

theorem requires_submitEvent (h : ¬MaySet actor) (eventId : Nat) (now : Timestamp) :
    (EventsRouter.submitEvent actor eventId now).Requires (Tells actor .submit) := by
  unfold EventsRouter.submitEvent EventsRouter.requireTenant
  refine Proc.requires_failIf_bind fun htenant => Proc.Gives.wrap ?_ _
  have htenant : (Text.nonEmpty actor.user.tenantId).isSome := by
    simpa [Option.isSome_iff_ne_none] using htenant
  refine requires_getEventById_bind (Proc.gives_fail _) fun event => ?_
  refine requires_ofExcept_bind fun action haction => Proc.Requires.bind ?_ _
  unfold EventService.resolveSubmitAction at haction
  split_ifs at haction with hdraft happroved
  · cases haction
    refine requires_transitionEvent fun event next role htransition hrole => ?_
    have hteacher : role = "teacher" := by
      cases hstatus : event.row.status <;> rw [hstatus] at htransition <;> cases htransition
      rfl
    subst hteacher
    unfold checkPreconditions
    rw [if_pos (by decide)]
    refine requires_ofExcept_bind fun actorId hid => ?_
    refine Proc.requires_failIf_bind fun howner => Proc.requires_of ?_ _
    refine ⟨htenant, .inl ⟨hdraft.2, hrole, event.row.createdBy, ?_⟩⟩
    have hnot : ¬actor.isOneOf ["school_admin", "super_admin"] = true := by
      intro hin
      refine not_manages h ?_
      obtain ⟨r, hr, hname⟩ := mem_roles_isOneOf.1 hin
      refine mem_roles_isOneOf.2 ⟨r, hr, ?_⟩
      simp only [List.mem_cons, List.not_mem_nil, or_false] at hname ⊢
      tauto
    rw [hid, not_not.1 fun hne => howner ⟨hne, hnot⟩]
  · cases haction
    refine requires_transitionEvent fun event next role htransition hrole => Proc.requires_of ?_ _
    have hteacher : role = "teacher" := by
      cases hstatus : event.row.status <;> rw [hstatus] at htransition <;> cases htransition
      rfl
    exact ⟨htenant, .inr ⟨happroved.2, hteacher ▸ hrole⟩⟩

theorem requires_managerDecision (eventId : Nat) (decision : Decision) (reason : Option String)
    (now : Timestamp) : (EventsRouter.managerDecision actor eventId decision reason now).Requires
      (Tells actor .managerDecision) := by
  unfold EventsRouter.managerDecision EventsRouter.requireTenant
  refine Proc.requires_failIf_bind fun htenant => Proc.Gives.wrap (Proc.Requires.bind ?_ _) _
  refine requires_transitionEvent fun event next role htransition hrole => Proc.requires_of ?_ _
  refine ⟨by simpa [Option.isSome_iff_ne_none] using htenant, ?_⟩
  cases decision <;> cases hstatus : event.row.status <;> rw [hstatus] at htransition <;>
    cases htransition <;> exact hrole

theorem requires_teacherPublishEvent (h : ¬MaySet actor) (eventId : Nat) (now : Timestamp) :
    (EventsRouter.teacherPublishEvent actor eventId now).Requires (Tells actor .publish) := by
  unfold EventsRouter.teacherPublishEvent EventsRouter.requireTenant
  refine Proc.requires_failIf_bind fun htenant => Proc.requires_failIf_bind fun hroles =>
    Proc.Gives.wrap (Proc.Requires.bind ?_ _) _
  unfold EventService.resolvePublishAction
  rw [if_neg (not_manager h)]
  refine requires_transitionEvent fun event next role htransition hrole => Proc.requires_of ?_ _
  have hteacher : role = "teacher" := by
    cases hstatus : event.row.status <;> rw [hstatus] at htransition <;> cases htransition
    rfl
  exact ⟨by simpa [Option.isSome_iff_ne_none] using htenant, not_not.1 hroles, hteacher ▸ hrole⟩

/-- No decision of an event teacher is ever made. -/
theorem requires_eventTeacherDecision (eventId : Nat) (decision : Decision) (reason : Option String)
    (now : Timestamp) :
    (EventsRouter.eventTeacherDecision actor eventId decision reason now).Requires False := by
  unfold EventsRouter.eventTeacherDecision EventsRouter.requireTenant
  refine Proc.requires_bind fun _ => Proc.Gives.wrap (Proc.requires_bind fun _ => ?_) _
  refine Proc.Requires.bind (requires_transitionEvent fun event next role htransition _ => ?_) _
  cases hstatus : event.row.status <;> rw [hstatus] at htransition <;> cases htransition

end Requires

/-! ## Who gets nothing through is told nothing -/

/-- A call that returns in neither of two states fails with the same error. -/
theorem outcome_eq_of_requires {α : Type} {P : Prop} {p : Task α}
    (hp : p.Twin SamePublic Answered p)
    (hrequires : p.Requires P) (h : ¬P) {d d' : Db} (hd : SamePublic d d') :
    outcome p.seq d = outcome p.seq d' := by
  rcases hp d d' hd with ⟨a, a', t, t', hok, -⟩ | ⟨e, t, t', herror, herror', -⟩
  · exact absurd (hrequires.of_ok hok) h
  · rw [outcome_of_error herror, outcome_of_error herror']

theorem outcome_map {α β : Type} (f : α → β) (p : Task α) (d : Db) :
    outcome (f <$> p).seq d = (outcome p.seq d).map f := by
  rw [map_eq_pure_bind, Proc.seq_bind]
  unfold outcome
  cases hp : p.seq d with
  | ok a t => rw [bind_of_ok hp]; rfl
  | error e t => rw [bind_of_error hp]; rfl

theorem private_of_not_tells {actor : Actor} (h : ¬MaySet actor) {route : Route}
    (hroute : ¬Tells actor route) : Private route actor := by
  rintro call rfl d d' hd
  unfold EventCall.answer EventCall.program
  cases call with
  | list => rw [outcome_map, outcome_map, (twin_listEvents h).outcome_eq hd]
  | get i => rw [outcome_map, outcome_map, (twin_getEvent h i).outcome_eq hd]
  | create payload now =>
    rw [outcome_map, outcome_map, (twin_createEventRoute h payload now).outcome_eq hd]
  | audience i payload =>
    rw [outcome_map, outcome_map, (twin_selectAudience actor i payload).outcome_eq hd]
  | clone i now =>
    rw [outcome_map, outcome_map, outcome_eq_of_requires (twin_cloneEventEndpoint actor i now)
      (requires_cloneEventEndpoint i now) hroute hd]
  | update i payload =>
    rw [outcome_map, outcome_map, outcome_eq_of_requires (twin_updateEvent h i payload)
      (requires_updateEvent h i payload) hroute hd]
  | patch i payload =>
    rw [outcome_map, outcome_map, outcome_eq_of_requires (twin_patchEvent actor i payload)
      (requires_patchEvent h i payload) hroute hd]
  | submit i now =>
    rw [outcome_map, outcome_map, outcome_eq_of_requires (twin_submitEvent actor i now)
      (requires_submitEvent h i now) hroute hd]
  | managerDecision i decision reason now =>
    rw [outcome_map, outcome_map,
      outcome_eq_of_requires (twin_managerDecision actor i now decision reason)
        (requires_managerDecision i decision reason now) hroute hd]
  | publish i now =>
    rw [outcome_map, outcome_map, outcome_eq_of_requires (twin_teacherPublishEvent actor i now)
      (requires_teacherPublishEvent h i now) hroute hd]
  | eventTeacherDecision i decision reason now =>
    rw [outcome_map, outcome_map,
      outcome_eq_of_requires (twin_eventTeacherDecision actor i now decision reason)
        (requires_eventTeacherDecision i decision reason now) hroute hd]

end Sams.Trips
