import Sams.Trips.Disclosure

/-!
# Who moves an event on

`transition_event` asks for a role or a permission that the transition table names. That
the actor owns the event and that it is for some class is asked for three of the four
actions that submit a draft.

Who may review and who may publish is said once more by `check_event_permission`, where a teacher
publishes their own events only. The table knows nothing of ownership.

**`submissions_checked_iff`**: a submission is by the creator or an administrator and for some class
exactly when its action is not `submit_to_manager`, or the actor may not take that action.

**`decisions_agree_iff`**: exactly whose reviews and publications the permission check allows.
-/

namespace Sams.Trips

open School Programs Rows Runs Interleaving TenantRepository TenantService

/-! ## Submitting -/

/-- The actor is the creator of the event. -/
def Owns (actor : Actor) (event : EventRow) : Prop := actor.id.toInt = .ok (event.createdBy : Int)

/-- Whoever submits a draft by the action is its creator or an administrator, and it is for some
class. -/
def SubmissionsChecked (action : EventAction) (actor : Actor) : Prop :=
  ∀ (eventId : Nat) (reason : Option String) (now : Timestamp) (d d' : Db) (ev : Option Event)
    (row : EventRow) (role : String), d.val.event? eventId = some row →
    transitions row.status action = some (.proposed, role) →
    (transitionEvent eventId action actor reason now).seq d = .ok ev d' →
    (Owns actor row ∨ actor.isOneOf ["school_admin", "super_admin"] = true) ∧
      classMappings d.val eventId ≠ []

theorem checkPreconditions_ok {event : Event} {action : EventAction} {actor : Actor}
    {reason : Option String} {d d' : Db} (haction : action ∈ submittingOwn)
    (h : (checkPreconditions event action actor reason).seq d = .ok () d') :
    (Owns actor event.row ∨ actor.isOneOf ["school_admin", "super_admin"] = true) ∧
      event.classMappings ≠ [] := by
  unfold checkPreconditions at h
  rw [if_pos haction, Proc.seq_bind] at h
  obtain ⟨actorId, t, hid, h⟩ := bind_eq_ok.1 h
  have hint : actor.id.toInt = .ok actorId := by
    cases hx : actor.id.toInt with
    | ok k =>
      rw [hx] at hid
      exact congrArg Except.ok (pure_eq_ok.1 hid).1
    | error e =>
      rw [hx] at hid
      exact (throw_eq_ok.1 hid).elim
  rw [Proc.seq_bind, Proc.seq_failIf] at h
  obtain ⟨⟨⟩, t', howner, hclasses⟩ := bind_eq_ok.1 h
  rw [Proc.seq_failIf] at hclasses
  have hnot := (raiseIf_eq_ok.1 howner).1
  refine ⟨?_, (raiseIf_eq_ok.1 hclasses).1⟩
  by_cases howns : (event.row.createdBy : Int) = actorId
  · exact .inl (by unfold Owns; rw [hint, howns])
  · exact .inr (by simpa [howns] using hnot)

/-- What submits a draft. -/
theorem submitting_of_proposed {found : EventStatus} {action : EventAction} {role : String}
    (h : transitions found action = some (.proposed, role)) :
    found = .draft ∧ role = "teacher" ∧ (action ∈ submittingOwn ∨ action = .submitToManager) := by
  unfold transitions at h
  split at h <;> simp_all [submittingOwn]

/-- Two teachers and a student, and an event of one of the teachers, for no class. -/
def othersTrip (status : EventStatus) : Db where
  val := { smallSchoolTables with
    users := [⟨1, "s@school", "student", []⟩, ⟨2, "t@school", "teacher", []⟩,
      ⟨3, "c@school", "teacher", []⟩]
    events := [{ id := 1, title := "Museum", date := 0, createdBy := 3, createdAt := 0, status }] }
  ok := by cases status <;> decide +kernel

/-- Whoever passes the role check submits the empty draft of anyone to the manager. -/
theorem submitToManager_returns {actor : Actor}
    (h : actor.isOneOf (allowedFor .submitToManager "teacher") = true) :
    ∃ ev d', (transitionEvent 1 .submitToManager actor none 0).seq (othersTrip .draft) =
      .ok ev d' := by
  have hteacher : teacherActor.isOneOf (allowedFor .submitToManager "teacher") = true := by decide
  have hreturns : returns (transitionEvent 1 .submitToManager teacherActor none 0).seq
      (othersTrip .draft) = true := by decide +kernel
  obtain ⟨ev, d', hok⟩ := returns_iff.1 hreturns
  have hrow : (othersTrip .draft).val.event? 1 = some
      { id := 1, title := "Museum", date := 0, createdBy := 3, createdAt := 0 } := by decide +kernel
  -- beyond the role check nothing depends on the actor
  refine ⟨ev, d', ?_⟩
  rw [← hok]
  unfold transitionEvent
  rw [getEventById_bind_seq hrow, getEventById_bind_seq hrow]
  dsimp only [transitions]
  rw [failIf_bind_seq (not_not.2 h), failIf_bind_seq (not_not.2 hteacher)]
  rfl

/-- **Which submissions are checked.** A submission by the action is the creator's or an
administrator's and for some class, whatever the event, if and only if the action is not
`submit_to_manager` or the actor may not take that one. -/
theorem submissions_checked_iff (action : EventAction) (actor : Actor) :
    SubmissionsChecked action actor ↔
      action ≠ .submitToManager ∨
        actor.isOneOf (allowedFor .submitToManager "teacher") = false := by
  constructor
  · intro hchecked
    by_contra hnot
    obtain ⟨rfl, hallowed⟩ : action = .submitToManager ∧
        actor.isOneOf (allowedFor .submitToManager "teacher") = true := by simpa using hnot
    obtain ⟨ev, d', hok⟩ := submitToManager_returns hallowed
    have hempty : classMappings (othersTrip .draft).val 1 = [] := by decide +kernel
    exact (hchecked 1 none 0 _ d' ev _ "teacher" rfl rfl hok).2 hempty
  · intro hcases eventId reason now d d' ev row role hrow htransition hok
    obtain ⟨row', next, role', fields, t, hrow', htransition', hrole, hpre, -⟩ :=
      transitionEvent_ok hok
    rw [hrow, Option.some.injEq] at hrow'
    subst hrow'
    rw [htransition, Option.some.injEq, Prod.mk.injEq] at htransition'
    obtain ⟨rfl, rfl⟩ := htransition'
    obtain ⟨-, rfl, hown | rfl⟩ := submitting_of_proposed htransition
    · exact checkPreconditions_ok hown hpre
    · simp [hrole] at hcases

/-- A teacher submits the draft of another, which is for no class. -/
theorem others_draft_submitted :
    returns (transitionEvent 1 .submitToManager teacherActor none 0).seq
      (othersTrip .draft) = true ∧
    ¬SubmissionsChecked .submitToManager teacherActor := by
  have hallowed : teacherActor.isOneOf (allowedFor .submitToManager "teacher") = true := by decide
  obtain ⟨ev, d', hok⟩ := submitToManager_returns hallowed
  refine ⟨returns_iff.2 ⟨ev, d', hok⟩, fun hchecked => ?_⟩
  obtain ⟨howner, -⟩ := hchecked 1 none 0 _ d' ev _ "teacher" rfl rfl hok
  have hnot :
      ¬(Owns teacherActor
    { id := 1, title := "Museum", date := 0, createdBy := 3, createdAt := 0 } ∨
      teacherActor.isOneOf ["school_admin", "super_admin"] = true) := by
    unfold Owns
    rintro (h | h)
    · cases h
    · exact absurd h (by decide)
  exact hnot howner

/-! ## Reviewing and publishing -/

/-- What `check_event_permission` decides on beside reading and editing. -/
inductive DecisionRight where
  | review
  | publish
  deriving DecidableEq, Repr

/-- `check_event_permission` on a review and on a publication. Whether the actor is the owner is
found out first, and raises where the id is no integer. -/
def checkDecisionPermission (actor : Actor) (event : EventRow) (right : DecisionRight) :
    Except PyError Bool := do
  let roles := actor.roles
  let isOwner := decide ((event.createdBy : Int) = (← actor.id.toInt))
  if actor.isOneOf ["super_admin", "school_admin", "admin", "*"] then
    return true
  match right with
  | .review =>
    return ("event:review" ∈ roles || actor.isOneOf ["manager", "school_admin", "super_admin",
      "admin"]) &&
      event.status = .proposed
  | .publish =>
    return ("event:publish" ∈ roles || (actor.isOneOf ["teacher", "event_teacher"] && isOwner) ||
        actor.isOneOf ["school_admin", "super_admin", "admin"]) && event.status = .approved

/-- The right that an action is an exercise of. -/
def rightOf : EventAction → Option DecisionRight
  | .managerApprove | .approve | .managerReject | .reject => some .review
  | .teacherPublish | .publish | .submit | .managerPublish => some .publish
  | _ => none

/-- Where the actor reviews or publishes an event of the creator by the action, the permission check
allows it or the actor is a manager. -/
def DecisionsAgree (action : EventAction) (actor : Actor) (creator : Nat) : Prop :=
  ∀ (eventId : Nat) (reason : Option String) (now : Timestamp) (d d' : Db) (ev : Option Event)
    (row : EventRow) (right : DecisionRight), rightOf action = some right →
    d.val.event? eventId = some row → row.createdBy = creator →
    (transitionEvent eventId action actor reason now).seq d = .ok ev d' →
    checkDecisionPermission actor row right = .ok true ∨ "manager" ∈ actor.roles

/-- The table lets the actor take the action in no status. -/
def Refused (action : EventAction) (actor : Actor) : Prop :=
  ∀ found next role, transitions found action = some (next, role) →
    actor.isOneOf (allowedFor action role) = false

/-- The actor's id is an integer; and who publishes is an administrator, has the
permission or is the creator. -/
def Entitled (action : EventAction) (actor : Actor) (creator : Nat) : Prop :=
  ∃ k, actor.id.toInt = .ok k ∧ (rightOf action = some .publish →
    actor.isOneOf ["super_admin", "school_admin", "admin", "*"] = true ∨
      "event:publish" ∈ actor.roles ∨ (creator : Int) = k)

theorem isOneOf_iff {actor : Actor} {names : List String} :
    actor.isOneOf names = true ↔ ∃ r ∈ actor.roles, r ∈ names := by
  unfold Actor.isOneOf
  simp only [List.any_eq_true, decide_eq_true_eq]

/-- The permission that is the right. -/
def DecisionRight.permission : DecisionRight → String
  | .review => "event:review"
  | .publish => "event:publish"

theorem permissions_of_right {action : EventAction} {right : DecisionRight}
    (h : rightOf action = some right) : actionPermissions action = [right.permission] := by
  cases action <;> cases h <;> rfl

theorem right_of_approving {action : EventAction} (h : action ∈ approving) :
    rightOf action = some .review := by
  simp only [approving, List.mem_cons, List.not_mem_nil, or_false] at h
  rcases h with rfl | rfl <;> rfl

/-- The transitions that review and publish. -/
theorem decision_cases {found next : EventStatus} {action : EventAction} {role : String}
    {right : DecisionRight} (h : transitions found action = some (next, role))
    (hright : rightOf action = some right) :
    (right = .review ∧ found = .proposed ∧ role = "manager" ∧
      (action ∈ approving ∨ (action ∈ rejecting ∧ next = .draft))) ∨
    (right = .publish ∧ found = .approved ∧ next = .published ∧
      (role = "teacher" ∨ action = .managerPublish ∧ role = "manager")) := by
  unfold transitions at h
  split at h <;> simp_all [rightOf, approving, rejecting]

/-- Who is allowed to decide holds one of these. -/
theorem roles_of_allowed {actor : Actor} {action : EventAction} {role : String}
    (h : actor.isOneOf (allowedFor action role) = true) :
    actor.isOneOf ["super_admin", "school_admin", "admin", "*"] = true ∨ role ∈ actor.roles ∨
      (role = "teacher" ∧ "event_teacher" ∈ actor.roles) ∨
      ∃ p ∈ actionPermissions action, p ∈ actor.roles := by
  obtain ⟨r, hr, hallowed⟩ := isOneOf_iff.1 h
  unfold allowedFor at hallowed
  simp only [List.cons_append, List.nil_append, List.mem_cons, List.mem_append] at hallowed
  rcases hallowed with rfl | rfl | rfl | hteacher | hpermission
  · exact .inl (isOneOf_iff.2 ⟨_, hr, by simp⟩)
  · exact .inl (isOneOf_iff.2 ⟨_, hr, by simp⟩)
  · exact .inr (.inl hr)
  · by_cases hrole : role = "teacher"
    · obtain rfl : r = "event_teacher" := by simpa [hrole] using hteacher
      exact .inr (.inr (.inl ⟨hrole, hr⟩))
    · simp [hrole] at hteacher
  · exact .inr (.inr (.inr ⟨r, hpermission, hr⟩))


section Decisions

variable {action : EventAction} {actor : Actor} {event : EventRow} {right : DecisionRight}

/-- What the permission check comes to where the id is an integer. -/
theorem checkDecisionPermission_eq {k : Int} (hid : actor.id.toInt = .ok k) :
    checkDecisionPermission actor event right = .ok true ↔
      actor.isOneOf ["super_admin", "school_admin", "admin", "*"] = true ∨
      (right = .review ∧ event.status = .proposed ∧
        ("event:review" ∈ actor.roles ∨ "manager" ∈ actor.roles)) ∨
      (right = .publish ∧ event.status = .approved ∧
        ("event:publish" ∈ actor.roles ∨
          ("teacher" ∈ actor.roles ∨ "event_teacher" ∈ actor.roles) ∧
            (event.createdBy : Int) = k)) := by
  have hmanager : actor.isOneOf ["super_admin", "school_admin", "admin", "*"] = false →
      (actor.isOneOf ["manager", "school_admin", "super_admin", "admin"] = true ↔
        "manager" ∈ actor.roles) := by
    intro hnot
    rw [← Bool.not_eq_true, isOneOf_iff] at hnot
    rw [isOneOf_iff]
    refine ⟨fun ⟨r, hr, hnames⟩ => ?_, fun h => ⟨_, h, by simp⟩⟩
    rcases List.mem_cons.1 hnames with rfl | hnames
    · exact hr
    · exact absurd ⟨r, hr, by revert hnames; simp; tauto⟩ hnot
  have hadmin : actor.isOneOf ["super_admin", "school_admin", "admin", "*"] = false →
      actor.isOneOf ["school_admin", "super_admin", "admin"] = false := by
    intro hnot
    rw [← Bool.not_eq_true, isOneOf_iff] at hnot ⊢
    rintro ⟨r, hr, hnames⟩
    exact hnot ⟨r, hr, by revert hnames; simp; tauto⟩
  have hteacher : actor.isOneOf ["teacher", "event_teacher"] = true ↔
      "teacher" ∈ actor.roles ∨ "event_teacher" ∈ actor.roles := by
    rw [isOneOf_iff]
    simp [and_or_left, exists_or]
  unfold checkDecisionPermission
  rw [hid]
  cases hnot : actor.isOneOf ["super_admin", "school_admin", "admin", "*"] with
  | true => simp [bind, Except.bind, pure, Except.pure]
  | false =>
    cases right <;>
      simp [hmanager hnot, hadmin hnot, hteacher, bind, Except.bind, pure, Except.pure, and_comm]

/-- Whoever is allowed to decide and is entitled passes the permission check, or is a manager. -/
theorem checked_of_allowed (event : EventRow) {found next : EventStatus} {role : String}
    (htransition : transitions found action = some (next, role))
    (hright : rightOf action = some right)
    (hallowed : actor.isOneOf (allowedFor action role) = true) (hfound : event.status = found)
    (hentitled : Entitled action actor event.createdBy) :
    checkDecisionPermission actor event right = .ok true ∨ "manager" ∈ actor.roles := by
  obtain ⟨k, hid, howner⟩ := hentitled
  rw [checkDecisionPermission_eq hid]
  rcases roles_of_allowed hallowed with hadmin | hrole
  · exact .inl (.inl hadmin)
  rcases decision_cases htransition hright with ⟨rfl, rfl, rfl, -⟩ | ⟨rfl, rfl, -, hby⟩
  · rcases hrole with hmanager | ⟨hteacher, -⟩ | ⟨p, hp, hheld⟩
    · exact .inr hmanager
    · exact absurd hteacher (by decide)
    · have hreview : p = "event:review" := by
        simpa [permissions_of_right hright, DecisionRight.permission] using hp
      exact .inl (.inr (.inl ⟨rfl, hfound, .inl (hreview ▸ hheld)⟩))
  · have hpublish : ∀ p ∈ actionPermissions action, p = "event:publish" := by
      simp [permissions_of_right hright, DecisionRight.permission]
    rcases howner hright with hadmin | hpermission | hcreator
    · exact .inl (.inl hadmin)
    · exact .inl (.inr (.inr ⟨rfl, hfound, .inl hpermission⟩))
    · rcases hrole with hheld | ⟨-, hteacher⟩ | ⟨p, hp, hheld⟩
      · rcases hby with rfl | ⟨-, rfl⟩
        · exact .inl (.inr (.inr ⟨rfl, hfound, .inr ⟨.inl hheld, hcreator⟩⟩))
        · exact .inr hheld
      · exact .inl (.inr (.inr ⟨rfl, hfound, .inr ⟨.inr hteacher, hcreator⟩⟩))
      · exact .inl (.inr (.inr ⟨rfl, hfound, .inl (hpublish p hp ▸ hheld)⟩))

/-- Who approves has an id that the column takes. -/
theorem number_of_approving {found : Event} {next : EventStatus} {reason : Option String}
    {now : Timestamp} {eventId : Nat} {fields : UpdateFields} {d t d' : Db}
    (haction : action ∈ approving)
    (heffects : (effects eventId found next action actor reason now).seq d = .ok fields t)
    (hupdate : updateEventStatus eventId fields t = .ok () d') : ∃ n, actor.id = .number n := by
  unfold effects at heffects
  dsimp only at heffects
  rw [if_neg fun hin => (actions_apart.2.2 hin).1 haction, if_pos haction,
    Proc.seq_bind] at heffects
  obtain ⟨⟨⟩, t', -, hret⟩ := bind_eq_ok.1 heffects
  obtain ⟨rfl, -⟩ := pure_eq_ok.1 hret
  cases hid : actor.id with
  | number n => exact ⟨n, rfl⟩
  | other asInt =>
    rw [hid] at hupdate
    exact (throw_eq_ok.1 hupdate).elim

/-- An actor who is allowed to decide and neither entitled nor a manager does so where the
permission check does not allow it. -/
theorem not_agree {creator : Nat} {found next : EventStatus} {role : String}
    (htransition : transitions found action = some (next, role))
    (hright : rightOf action = some right) (happroving : action ∉ approving)
    (hallowed : actor.isOneOf (allowedFor action role) = true) (hmanager : "manager" ∉ actor.roles)
    (hentitled : ¬Entitled action actor creator) : ¬DecisionsAgree action actor creator := by
  intro hagree
  have hunchecked : ∀ status, checkDecisionPermission actor (tripEvent creator status 0) right ≠
      .ok true := by
    intro status hchecked
    cases hid : actor.id.toInt with
    | error e =>
      unfold checkDecisionPermission at hchecked
      rw [hid] at hchecked
      cases hchecked
    | ok k =>
      refine hentitled ⟨k, hid, fun hpublish => ?_⟩
      rw [hright, Option.some.injEq] at hpublish
      subst hpublish
      rcases (checkDecisionPermission_eq hid).1 hchecked with hadmin | ⟨hreview, -⟩ |
        ⟨-, -, hheld | ⟨-, hcreator⟩⟩
      · exact .inl hadmin
      · cases hreview
      · exact .inr (.inl hheld)
      · exact .inr (.inr hcreator)
  rcases decision_cases htransition hright with ⟨-, rfl, -, happroves | ⟨-, rfl⟩⟩ | ⟨-, rfl, rfl, -⟩
  · exact happroving happroves
  · obtain ⟨ev, d', hok, -⟩ := reject_trip (n := creator) numeric_zero htransition hallowed
    exact (hagree 1 _ _ _ d' _ _ right hright (event?_trip numeric_zero _) rfl hok).elim
      (hunchecked _) hmanager
  · obtain ⟨ev, d', hok, -⟩ := publish_trip (n := creator) numeric_zero 0 htransition hallowed
    exact (hagree 1 _ _ _ d' _ _ right hright (event?_trip numeric_zero _) rfl hok).elim
      (hunchecked _) hmanager

end Decisions

/-- **Whose decisions the permission check allows.** Whatever event of the creator the actor
reviews or publishes by the action, the permission check allows it or the actor is a manager,
if and only if the action is neither, or it approves, or the actor may not take it, or is a
manager, or is entitled. -/
theorem decisions_agree_iff (action : EventAction) (actor : Actor) (creator : Nat) :
    DecisionsAgree action actor creator ↔
      rightOf action = none ∨ action ∈ approving ∨ Refused action actor ∨
        "manager" ∈ actor.roles ∨ Entitled action actor creator := by
  constructor
  · intro hagree
    by_contra hnot
    simp only [not_or] at hnot
    obtain ⟨hright, happroving, hrefused, hmanager, hentitled⟩ := hnot
    obtain ⟨right, hright⟩ := Option.ne_none_iff_exists'.1 hright
    obtain ⟨found, next, role, htransition, hallowed⟩ : ∃ found next role,
        transitions found action = some (next, role) ∧
          actor.isOneOf (allowedFor action role) = true := by
      simpa [Refused] using hrefused
    exact not_agree htransition hright happroving hallowed hmanager hentitled hagree
  · intro hcases eventId reason now d d' ev row right hright hrow hcreator hok
    obtain ⟨row', next, role, fields, t, hrow', htransition, hallowed, -, heffects, hupdate⟩ :=
      transitionEvent_ok hok
    rw [hrow, Option.some.injEq] at hrow'
    subst hrow' hcreator
    have hchecked := checked_of_allowed row htransition hright hallowed rfl
    rcases hcases with hnone | happroving | hrefused | hmanager | hentitled
    · rw [hnone] at hright
      cases hright
    · obtain ⟨n, hid⟩ := number_of_approving happroving heffects hupdate
      refine hchecked ⟨n, by rw [hid]; rfl, fun hpublish => ?_⟩
      rw [right_of_approving happroving] at hpublish
      cases hpublish
    · rw [hrefused _ _ _ htransition] at hallowed
      cases hallowed
    · exact .inr hmanager
    · exact hchecked hentitled

/-- A teacher publishes the approved event of another teacher, which the permission check does not
allow. -/
theorem others_trip_published :
    returns (transitionEvent 1 .teacherPublish teacherActor none 0).seq
      (othersTrip .approved) = true ∧
    ("event:publish" ∉ teacherActor.roles ∧ "manager" ∉ teacherActor.roles) ∧
    ¬DecisionsAgree .teacherPublish teacherActor 3 := by
  have hreturns : returns (transitionEvent 1 .teacherPublish teacherActor none 0).seq
      (othersTrip .approved) = true := by decide +kernel
  have hroles : "event:publish" ∉ teacherActor.roles ∧ "manager" ∉ teacherActor.roles := by decide
  refine ⟨hreturns, hroles, fun hagree => ?_⟩
  obtain ⟨ev, d', hok⟩ := returns_iff.1 hreturns
  rcases hagree 1 none 0 _ d' ev _ .publish rfl rfl rfl hok with hchecked | hmanager
  · rcases (checkDecisionPermission_eq rfl).1 hchecked with hadmin | ⟨h, -⟩ | ⟨-, -, h | ⟨-, h⟩⟩
    · exact absurd hadmin (by decide)
    · cases h
    · exact hroles.1 h
    · exact absurd h (by decide)
  · exact hroles.2 hmanager


end Sams.Trips
