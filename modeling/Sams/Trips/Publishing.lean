import Sams.School.Payments
import Sams.Trips.Stamps

/-!
# Publishing an event

What a `transition_event` call that publishes does, run alone: the event is stamped and everyone
whom it concerns is told, the students placed in its classes and their parents. One action of the
table has no branch for this: `submit`.

**`publishing_reaches`**: a call that publishes stamps the event and tells everyone exactly when its
action is another; and where no call publishes by that action, the stamps agree with the status in
every run of requests whose status writes find the status that they have read.
-/

namespace Sams.Trips

open School Programs Rows Runs Interleaving TenantRepository TenantService

/-! ## Whom an event concerns -/

/-- The student is placed in a class that the event is for. -/
def Targeted (t : Tables) (eventId studentId : Nat) : Prop :=
  ∃ s ∈ t.students, s.id = studentId ∧
    ∃ m ∈ t.eventClasses, m.eventId = eventId ∧ s.classId = some m.classId

/-- The user is such a student or is linked to one as a parent. -/
def Concerned (t : Tables) (eventId userId : Nat) : Prop :=
  Targeted t eventId userId ∨
    ∃ m ∈ t.studentParents, m.parentId = userId ∧ Targeted t eventId m.studentId

/-- The user has a notification of the event that was not there before. -/
def Told (eventId : Nat) (d d' : Db) (userId : Nat) : Prop :=
  ∃ n ∈ d'.val.notifications, n ∉ d.val.notifications ∧ n.eventId = eventId ∧
    n.recipientUserId = userId

/-- The event is stamped with the time of its publication, and everyone whom it concerns is told. -/
structure Reaches (eventId : Nat) (now : Timestamp) (d d' : Db) : Prop where
  stamped : ∃ e, d'.val.event? eventId = some e ∧ e.status = .published ∧ e.publishedAt = some now
  told : ∀ userId, Concerned d.val eventId userId → Told eventId d d' userId

/-! ## Notifications -/

/-- Notifications were added and nothing else was touched. -/
structure OnlyNotifies (d d' : Db) : Prop where
  rest : d'.val = { d.val with notifications := d'.val.notifications, seq := d'.val.seq }
  kept : ∀ n ∈ d.val.notifications, n ∈ d'.val.notifications

instance : IsPreorder Db OnlyNotifies where
  refl d := ⟨rfl, fun _ h => h⟩
  trans _ _ _ h h' := ⟨h'.rest.trans (by rw [h.rest]), fun n hn => h'.kept n (h.kept n hn)⟩

theorem Told.before {eventId userId : Nat} {d d' d'' : Db} (h : OnlyNotifies d d')
    (htold : Told eventId d' d'' userId) : Told eventId d d'' userId := by
  obtain ⟨n, hn, hnew, hrest⟩ := htold
  exact ⟨n, hn, fun hold => hnew (h.kept n hold), hrest⟩

theorem Told.after {eventId userId : Nat} {d d' d'' : Db} (htold : Told eventId d d' userId)
    (h : OnlyNotifies d' d'') : Told eventId d d'' userId := by
  obtain ⟨n, hn, hrest⟩ := htold
  exact ⟨n, h.kept n hn, hrest⟩

theorem createNotification_ok {eventId r : Nat} {title : Option String} {d d' : Db} {u : Unit}
    (h : createNotification eventId r title d = .ok u d') :
    OnlyNotifies d d' ∧ Told eventId d d' r := by
  unfold createNotification at h
  have hval := exec_eq_ok.1 h
  have hnotifications : d'.val.notifications = d.val.notifications ++
      [{ id := d.val.seq.notification, eventId, recipientUserId := r, titleOverride :=
        title }] := by
    rw [hval]
  refine ⟨⟨by rw [hval], fun n hn => by simp [hnotifications, hn]⟩, ?_⟩
  refine ⟨_, by rw [hnotifications]; exact List.mem_append_right _ (List.mem_singleton_self _), ?_,
    rfl, rfl⟩
  -- its key is not the key of any other
  intro hold
  have hkeys := d'.ok.keys.notifications
  rw [hnotifications] at hkeys
  exact hkeys.ne_of_append _ hold rfl

theorem getParentsOf_eq {d d' : Db} (h : OnlyNotifies d d') (s : Nat) :
    getParentsOf d'.val s = getParentsOf d.val s := by
  unfold getParentsOf
  rw [h.rest]

section Announce

variable {eventId : Nat} {event : Event} {title : String}

theorem announce_ok {r : Nat} {d d' : Db} {u : Unit}
    (h : (announce eventId event r title).seq d = .ok u d') :
    OnlyNotifies d d' ∧ Told eventId d d' r := by
  unfold announce at h
  rw [Proc.seq_marked] at h
  exact createNotification_ok h

/-- Every parent of a student is told. -/
theorem announceParents_ok {parents : List Nat} {d d' : Db} {u : PUnit}
    (h : (parents.forM fun p => announce eventId event p title).seq d = .ok u d') :
    OnlyNotifies d d' ∧ ∀ p ∈ parents, Told eventId d d' p := by
  rw [Proc.seq_forM] at h
  exact forM_ok_each (Q := fun p d d' => Told eventId d d' p) (fun _ _ _ h => announce_ok h)
    (fun _ _ _ _ => Told.before) (fun _ _ _ _ => Told.after) h

/-- A student and their parents are told. -/
def FamilyTold (eventId s : Nat) (d d' : Db) : Prop :=
  Told eventId d d' s ∧ ∀ p ∈ getParentsOf d.val s, Told eventId d d' p

theorem announceAll_ok {parentTitle : String} {d d' : Db} {u : Unit}
    (h : (announceAll eventId event title parentTitle).seq d = .ok u d') :
    OnlyNotifies d d' ∧
      ∀ s ∈ getStudentsInClasses d.val (event.classMappings.map ClassMapping.classId),
        FamilyTold eventId s d d' := by
  unfold announceAll at h
  dsimp only at h
  split_ifs at h with hclasses
  · obtain ⟨-, rfl⟩ := pure_eq_ok.1 h
    refine ⟨refl_of OnlyNotifies d, fun s hs => ?_⟩
    simp [getStudentsInClasses, hclasses] at hs
  · rw [Proc.seq_bind, Proc.seq_look, query_bind, Proc.seq_forM] at h
    refine forM_ok_each (Q := FamilyTold eventId) (fun s t t' hround => ?_) ?_ ?_ h
    · rw [Proc.seq_bind] at hround
      obtain ⟨⟨⟩, t₁, hstudent, hparents⟩ := bind_eq_ok.1 hround
      obtain ⟨honly, htold⟩ := announce_ok hstudent
      rw [Proc.seq_bind, Proc.seq_look, query_bind] at hparents
      obtain ⟨honly', htold'⟩ := announceParents_ok hparents
      refine ⟨trans_of OnlyNotifies honly honly', htold.after honly', fun p hp => ?_⟩
      exact (htold' p (by rwa [getParentsOf_eq honly])).before honly
    · intro s t t' t'' honly hfamily
      refine ⟨hfamily.1.before honly, fun p hp => ?_⟩
      exact (hfamily.2 p (by rwa [getParentsOf_eq honly])).before honly
    · intro s t t' t'' hfamily honly
      exact ⟨hfamily.1.after honly, fun p hp => (hfamily.2 p hp).after honly⟩

end Announce

/-- The class of a class map and its level are there. -/
theorem classMapping_some {d : Db} {m : EventClassRow} (hm : m ∈ d.val.eventClasses) :
    ∃ mapping, classMapping d.val m = some mapping ∧ mapping.classId = m.classId := by
  obtain ⟨c, hc, hcid⟩ := d.ok.rollovers.event_class_class.exists_row hm rfl
  obtain ⟨l, hl, hlid⟩ := d.ok.placements.class_level.exists_row hc rfl
  have hfindc : d.val.class? m.classId = some c := d.ok.keys.classes.find?_eq_some.2 ⟨hc, hcid⟩
  have hfindl : d.val.level? c.levelId = some l := d.ok.keys.levels.find?_eq_some.2 ⟨hl, hlid⟩
  unfold classMapping
  rw [hfindc, Option.bind_eq_bind, Option.bind_some, hfindl]
  exact ⟨_, rfl, rfl⟩

/-- The students of the event's classes are those that it is for. -/
theorem mem_students_of_targeted {d : Db} {eventId s : Nat} (h : Targeted d.val eventId s) :
    s ∈ getStudentsInClasses d.val
      ((classMappings d.val eventId).map ClassMapping.classId) := by
  obtain ⟨student, hstudent, rfl, m, hm, hevent, hclass⟩ := h
  obtain ⟨mapping, hmapping, hid⟩ := classMapping_some hm
  have hmem : mapping ∈ classMappings d.val eventId :=
    List.mem_filterMap.2 ⟨m, List.mem_filter.2 ⟨hm, by simpa using hevent⟩, hmapping⟩
  refine List.mem_map.2 ⟨student, List.mem_filter.2 ⟨hstudent, ?_⟩, rfl⟩
  simp only [hclass, Option.any_some, decide_eq_true_eq]
  exact List.mem_map.2 ⟨mapping, hmem, hid⟩

/-- Everyone whom the event concerns is told with the families of its students. -/
theorem told_of_families {d d' : Db} {eventId : Nat}
    (h : ∀ s ∈ getStudentsInClasses d.val
      ((classMappings d.val eventId).map ClassMapping.classId), FamilyTold eventId s d d')
    {userId : Nat} (hconcerned : Concerned d.val eventId userId) : Told eventId d d' userId := by
  rcases hconcerned with htargeted | ⟨m, hm, rfl, htargeted⟩
  · exact (h _ (mem_students_of_targeted htargeted)).1
  · refine (h _ (mem_students_of_targeted htargeted)).2 _ (List.mem_map.2 ⟨m, ?_, rfl⟩)
    exact List.mem_filter.2 ⟨hm, by simp⟩

/-! ## One call -/

section Call

variable {eventId : Nat} {action : EventAction} {actor : Actor} {reason : Option String}
variable {now : Timestamp} {d d' : Db}

theorem getEventById_seq (i : Nat) : (getEventById i).seq =
    query fun d => (d.val.event? i).map fun row => ⟨row, classMappings d.val i⟩ := by
  funext d
  unfold getEventById
  rw [Proc.seq_bind, Proc.seq_look, query_bind]
  cases hrow : d.val.event? i with
  | none => simp [query, hrow]
  | some row =>
    show (Proc.look (fun d : Db => classMappings d.val i) >>= fun m =>
      (pure (some ⟨row, m⟩) : Task (Option Event))).seq d = _
    rw [Proc.seq_bind, Proc.seq_look, query_bind]
    simp [query, hrow]

/-- A call that returned: the event as it was read, the transition, the role, the preconditions, the
effects, and the `UPDATE`. -/
theorem transitionEvent_ok {ev : Option Event}
    (h : (transitionEvent eventId action actor reason now).seq d = .ok ev d') :
    ∃ row next role fields t, d.val.event? eventId = some row ∧
      transitions row.status action = some (next, role) ∧
      actor.isOneOf (allowedFor action role) = true ∧
      (checkPreconditions ⟨row, classMappings d.val eventId⟩ action actor reason).seq d = .ok () d ∧
      (effects eventId ⟨row, classMappings d.val eventId⟩ next action actor reason now).seq d =
        .ok fields t ∧
      updateEventStatus eventId fields t = .ok () d' := by
  unfold transitionEvent at h
  rw [Proc.seq_bind, getEventById_seq, query_bind] at h
  cases hrow : d.val.event? eventId with
  | none =>
    rw [hrow] at h
    exact (throw_eq_ok.1 h).elim
  | some row =>
    rw [hrow] at h
    dsimp only [Option.map_some] at h
    cases htransition : transitions row.status action with
    | none =>
      rw [htransition] at h
      exact (throw_eq_ok.1 h).elim
    | some target =>
      obtain ⟨next, role⟩ := target
      rw [htransition] at h
      dsimp only at h
      rw [Proc.seq_bind, Proc.seq_failIf] at h
      obtain ⟨⟨⟩, t₁, hrole, h⟩ := bind_eq_ok.1 h
      obtain ⟨hallowed, rfl⟩ := raiseIf_eq_ok.1 hrole
      rw [Proc.seq_bind] at h
      obtain ⟨⟨⟩, t₂, hpre, h⟩ := bind_eq_ok.1 h
      have hsame : t₂ = d := by
        have hmoves := (keeps_checkPreconditions ⟨row, classMappings d.val eventId⟩ action actor
          reason).moves (S := Same id) trivial (s := d)
        rwa [after_ok hpre] at hmoves
      subst hsame
      rw [Proc.seq_bind] at h
      obtain ⟨fields, t, heffects, h⟩ := bind_eq_ok.1 h
      rw [Proc.seq_bind, Proc.seq_marked, getEventById_seq] at h
      obtain ⟨⟨⟩, t', hupdate, h⟩ := bind_eq_ok.1 h
      obtain ⟨-, rfl⟩ := query_eq_ok.1 h
      exact ⟨row, next, role, fields, t, rfl, htransition, not_not.1 hallowed, hpre,
        heffects, hupdate⟩

/-- `submit` publishes without any effect. -/
theorem effects_submit {event : Event} {next : EventStatus} {fields : UpdateFields} {t : Db}
    (h : (effects eventId event next .submit actor reason now).seq d = .ok fields t) :
    fields = { status := next } ∧ t = d := by
  obtain ⟨hfields, hstate⟩ := pure_eq_ok.1 h
  exact ⟨hfields.symm, hstate.symm⟩

/-- The other actions that publish tell everyone first. -/
theorem effects_publishing (haction : action ∈ publishing) {event : Event} {next : EventStatus}
    {fields : UpdateFields} {t : Db}
    (h : (effects eventId event next action actor reason now).seq d = .ok fields t) :
    fields = { status := next, publishedAt := some now } ∧
      ∃ title parentTitle, (announceAll eventId event title parentTitle).seq d = .ok () t := by
  have hdone : ∀ title parentTitle, (announceAll eventId event title parentTitle >>= fun _ =>
      (pure { status := next, publishedAt := some now } : Task UpdateFields)).seq d = .ok fields t →
      fields = { status := next, publishedAt := some now } ∧
        ∃ title parentTitle, (announceAll eventId event title parentTitle).seq d = .ok () t := by
    intro title parentTitle h
    rw [Proc.seq_bind] at h
    obtain ⟨⟨⟩, t', hall, hret⟩ := bind_eq_ok.1 h
    obtain ⟨hfields, rfl⟩ := pure_eq_ok.1 hret
    exact ⟨hfields.symm, title, parentTitle, hall⟩
  simp only [publishing, List.mem_cons, List.not_mem_nil, or_false] at haction
  rcases haction with rfl | rfl | rfl
  · exact hdone _ _ h
  · exact hdone _ _ h
  · exact hdone _ _ h

theorem updateEventStatus_event {fields : UpdateFields} {t : Db} {row : EventRow}
    (hrow : t.val.event? eventId = some row) (h : updateEventStatus eventId fields t = .ok () d') :
    (∃ reviewer, d'.val.event? eventId = some (fields.write reviewer row)) ∧
      d'.val.notifications = t.val.notifications := by
  rcases updateEventStatus_cases eventId fields with ⟨reviewer, hcase⟩ | hcase
  · rw [hcase] at h
    unfold writeEventStatus at h
    have hval := exec_eq_ok.1 h
    refine ⟨⟨reviewer, ?_⟩, by rw [hval]⟩
    unfold Tables.event? at hrow ⊢
    rw [hval, find?_updateWhere (by intro _; rfl), hrow]
    have hid : row.id = eventId := by simpa using List.find?_some hrow
    simp [hid]
  · rw [hcase] at h
    exact (throw_eq_ok.1 h).elim

/-- A call that publishes by `submit` stamps nothing. -/
theorem not_reaches_submit (hd : WellStamped d) {ev : Option Event} {found : EventStatus}
    {role : String} (hfound : statusOf d eventId = some found)
    (h : (transitionEvent eventId .submit actor reason now).seq d = .ok ev d')
    (htransition : transitions found .submit = some (.published, role)) :
    ¬Reaches eventId now d d' := by
  intro hreaches
  obtain ⟨row, next, role', fields, t, hrow, htransition', -, -, heffects, hupdate⟩ :=
    transitionEvent_ok h
  obtain ⟨rfl, rfl⟩ := effects_submit heffects
  obtain ⟨⟨reviewer, hevent⟩, -⟩ := updateEventStatus_event hrow hupdate
  obtain ⟨e, he, -, hpublished⟩ := hreaches.stamped
  rw [hevent, Option.some.injEq] at he
  subst he
  -- the event was approved, so that it had no publication time to keep
  have hmem : row ∈ t.val.events := List.mem_of_find?_eq_some hrow
  have hstatus : row.status = .approved := by
    have hid : row.id = eventId := by simpa using List.find?_some hrow
    rw [status_of_mem hfound hmem hid]
    unfold transitions at htransition
    split at htransition <;> simp_all
  have hnone : row.publishedAt = none := by
    have hnot := (hd row hmem).published
    rw [hstatus] at hnot
    simpa using hnot
  simp [UpdateFields.write, hnone] at hpublished

/-- A call that publishes by another action reaches everyone. -/
theorem reaches_publishing {ev : Option Event} {found : EventStatus} {role : String}
    (hfound : statusOf d eventId = some found)
    (h : (transitionEvent eventId action actor reason now).seq d = .ok ev d')
    (htransition : transitions found action = some (.published, role))
    (hsubmit : action ≠ .submit) :
    Reaches eventId now d d' := by
  obtain ⟨row, next, role', fields, t, hrow, htransition', -, -, heffects, hupdate⟩ :=
    transitionEvent_ok h
  have hstatus : row.status = found := by
    have hid : row.id = eventId := by simpa using List.find?_some hrow
    exact status_of_mem hfound (List.mem_of_find?_eq_some hrow) hid
  rw [hstatus, htransition, Option.some.injEq, Prod.mk.injEq] at htransition'
  obtain ⟨rfl, rfl⟩ := htransition'
  have haction : action ∈ publishing := by
    rcases transitions_cases htransition hsubmit with ⟨-, hnext, -⟩ | ⟨-, hnext, -⟩ |
      ⟨-, hnext, -⟩ | ⟨-, -, haction⟩
    · cases hnext
    · cases hnext
    · cases hnext
    · exact haction
  obtain ⟨rfl, title, parentTitle, hall⟩ := effects_publishing haction heffects
  obtain ⟨honly, hfamilies⟩ := announceAll_ok hall
  have hrow' : t.val.event? eventId = some row := by
    unfold Tables.event? at hrow ⊢
    rw [honly.rest]
    exact hrow
  obtain ⟨⟨reviewer, hevent⟩, hnotifications⟩ := updateEventStatus_event hrow' hupdate
  refine ⟨⟨_, hevent, rfl, by simp [UpdateFields.write]⟩, fun userId hconcerned => ?_⟩
  obtain ⟨n, hn, hrest⟩ := told_of_families hfamilies hconcerned
  exact ⟨n, hnotifications ▸ hn, hrest⟩

end Call

/-- **Publishing reaches everyone, unless by `submit`.** In a state where the stamps agree, a
call that returned and moved the event to `published` stamps it and tells everyone whom it
concerns if and only if its action is not `submit`; and where the stamps agree at first, they do
throughout every run of requests whose status writes find the status that was read and do not
publish by `submit`. -/
theorem publishing_reaches {d : Db} (hd : WellStamped d) :
    (∀ (eventId : Nat) (action : EventAction) (actor : Actor) (reason : Option String)
      (now : Timestamp) (d' : Db) (ev : Option Event) (found : EventStatus) (role : String),
      statusOf d eventId = some found → transitions found action = some (.published, role) →
      (transitionEvent eventId action actor reason now).seq d = .ok ev d' →
      (Reaches eventId now d d' ↔ action ≠ .submit)) ∧
    (∀ (ι : Type) [DecidableEq ι] (requests : ι → Request) (is : List ι),
      EachStep Pool.step
        (fun P i => P.Undisturbed (fun i => StatusFound (requests i).submits) i)
        (requesting d requests) is →
      Throughout Pool.step (fun P => WellStamped P.state) (requesting d requests) is) := by
  refine ⟨fun eventId action actor reason now d' ev found role hfound htransition h => ?_, ?_⟩
  · refine ⟨fun hreaches => ?_, reaches_publishing hfound h htransition⟩
    rintro rfl
    exact not_reaches_submit hd hfound h htransition hreaches
  · intro ι _ requests is h
    exact stamped_run hd requests h

/-! ## An approved event -/

/-- The small school, whose event is approved. -/
def approvedTrip : Db where
  val := { tripSchool.val with
    events := [{ id := 1, title := "Museum", date := 0, createdBy := 2, createdAt := 0,
                 status := .approved, managerApprovedAt := some 3 }] }
  ok := by decide +kernel

def teacherActor : Actor where
  user := teacher
  id := .number 2

/-- The teacher changes the title while the event is published. -/
def editAndPublish : Fin 2 → Request
  | 0 => .publish teacherActor 1 5
  | 1 => .update teacherActor 1 { title := "The museum", date := 0 }

theorem published_in_order : EachStep Pool.step
    (fun P i => P.Undisturbed (fun i => StatusFound (editAndPublish i).submits) i)
    (requesting approvedTrip editAndPublish) [1, 0, 0, 1, 0, 0, 0, 1, 0, 0] := by
  decide +kernel

/-- Published by the teacher, the event is stamped and the student is told; and beside an edit the
stamps agree throughout. -/
theorem teacher_publishes :
    Reaches 1 5 approvedTrip
      (after (transitionEvent 1 .publish teacherActor none 5).seq approvedTrip) ∧
    Throughout Pool.step (fun P => WellStamped P.state) (requesting approvedTrip editAndPublish)
      [1, 0, 0, 1, 0, 0, 0, 1, 0, 0] := by
  have hstamped : WellStamped approvedTrip := by decide
  have hfound : statusOf approvedTrip 1 = some .approved := by decide
  have hreturns : returns (transitionEvent 1 .publish teacherActor none 5).seq
      approvedTrip = true := by
    decide +kernel
  obtain ⟨ev, d', h⟩ := returns_iff.1 hreturns
  refine ⟨?_, (publishing_reaches hstamped).2 _ editAndPublish _ published_in_order⟩
  rw [after_ok h]
  exact ((publishing_reaches hstamped).1 1 .publish teacherActor none 5 d' ev .approved "teacher"
    hfound rfl h).2 (by decide)

/-- What the action `submit` leaves of the approved event. -/
def submitted : Db := after (transitionEvent 1 .submit teacherActor none 5).seq approvedTrip

theorem submitted_event :
    returns (transitionEvent 1 .submit teacherActor none 5).seq approvedTrip = true ∧
    (submitted.val.event? 1).map EventRow.status = some .published ∧
    (submitted.val.event? 1).map EventRow.publishedAt = some none := by
  decide +kernel

/-- The action `submit` publishes the event from a state in which the stamps agree, but stamps
nothing and tells nobody, and the stamps agree no longer. -/
theorem submit_reaches_nobody : WellStamped approvedTrip ∧
    statusOf approvedTrip 1 = some .approved ∧
    transitions .approved .submit = some (.published, "teacher") ∧
    returns (transitionEvent 1 .submit teacherActor none 5).seq approvedTrip = true ∧
    ¬Reaches 1 5 approvedTrip submitted ∧ ¬WellStamped submitted := by
  obtain ⟨hreturns, hstatus, hpublished⟩ := submitted_event
  refine ⟨by decide, by decide, rfl, hreturns, fun hreaches => ?_, fun hstamped => ?_⟩
  · obtain ⟨e, he, -, hnow⟩ := hreaches.stamped
    rw [he, Option.map_some, hnow] at hpublished
    cases hpublished
  · obtain ⟨e, he, hestatus⟩ := Option.map_eq_some_iff.1 hstatus
    have hsome := (hstamped e (List.mem_of_find?_eq_some he)).published.2 hestatus
    rw [he, Option.map_some, Option.some.injEq] at hpublished
    rw [hpublished] at hsome
    cases hsome

end Sams.Trips
