import Sams.Trips.Authority
import Sams.Trips.Listing

/-!
# What is listed can be opened

The list of a user's events asks `check_event_permission` of each, and so does the route that opens
one. The list of a teacher has more: every event for a class that they head, whatever its status.
The permission check means to let a head teacher in, but finds no head teacher among the columns
that are read with an event.

**`listed_iff`**: everything that is listed can be opened exactly when each event for a class that
the user heads is one that a teacher reads.
-/

namespace Sams.Trips

open School Programs Interleaving TenantRepository TenantService

/-! ## Opening an event -/

/-- The event is there, the permission check lets the actor read it as it is loaded, and the route
does not answer that access is denied. -/
structure OpenTo (actor : Actor) (d : Db) (eventId : Nat) : Prop where
  permitted : ∃ event, (getEventById eventId).seq d = .ok (some event) d ∧
    checkEventPermission actor event.row .read = .ok true
  not_denied : ∀ d', (EventsRouter.getEvent actor eventId).seq d ≠
    .error (.httpException 403 "Access denied") d'

/-- What is listed can be opened. -/
def ListedOpen (actor : Actor) (d : Db) : Prop :=
  ∀ events d', (getEventsForUser actor).seq d = .ok events d' →
    ∀ ev ∈ events, OpenTo actor d ev.row.id

/-- The row is there and may be read. -/
def Readable (actor : Actor) (d : Db) (eventId : Nat) : Prop :=
  ∃ e, d.val.event? eventId = some e ∧ checkEventPermission actor e .read = .ok true

variable {actor : Actor} {d : Db} {eventId : Nat}

theorem openTo_iff : OpenTo actor d eventId ↔ Readable actor d eventId := by
  constructor
  · rintro ⟨⟨event, hevent, hread⟩, -⟩
    rw [getEventById_seq] at hevent
    obtain ⟨hevent, -⟩ := query_eq_ok.1 hevent
    obtain ⟨e, he, rfl⟩ := Option.map_eq_some_iff.1 hevent
    exact ⟨e, he, hread⟩
  · rintro ⟨e, he, hread⟩
    have hevent : (getEventById eventId).seq d =
        .ok (some ⟨e, classMappings d.val eventId⟩) d := by
      rw [getEventById_seq]
      simp [query, he]
    refine ⟨⟨_, hevent, hread⟩, fun d' hdenied => ?_⟩
    unfold EventsRouter.getEvent at hdenied
    rw [Proc.seq_bind, Proc.seq_failIf, Proc.seq_wrap] at hdenied
    rcases bind_eq_error.1 hdenied with htenant | ⟨⟨⟩, t, htenant, hopened⟩
    · cases (raiseIf_eq_error.1 htenant).2.1
    · have ht := (raiseIf_eq_ok.1 htenant).2
      subst ht
      rw [rescue_of_ok (a := EventsRouter.shown actor ⟨e, classMappings d.val eventId⟩)] at hopened
      · cases hopened
      · rw [Proc.seq_bind, bind_of_ok hevent]
        dsimp only
        rw [hread]
        rfl

/-! ## The permission to read -/

/-- Permission depends on the status and the creator alone. -/
theorem check_congr {e e' : EventRow} (hstatus : e.status = e'.status)
    (hcreator : e.createdBy = e'.createdBy) (right : EventRight) :
    checkEventPermission actor e right = checkEventPermission actor e' right := by
  unfold checkEventPermission
  rw [hstatus, hcreator]

/-- The list asks for the same roles. -/
theorem check_viewer (h : actor.user.roles ≠ []) (e : EventRow) (right : EventRight) :
    checkEventPermission (viewer actor) e right = checkEventPermission actor e right := by
  have hroles : (viewer actor).roles = actor.roles := by
    unfold Actor.roles viewer
    rw [if_neg h, if_neg h]
  unfold checkEventPermission Actor.isOneOf
  rw [hroles]
  rfl

/-- Who has a number for an id is told whether they have permission. -/
theorem check_returns {t : Nat} (hid : actor.id = .number t) (e : EventRow) (right : EventRight) :
    ∃ b, checkEventPermission actor e right = .ok b := by
  unfold checkEventPermission
  rw [hid]
  dsimp only [ParsedId.toInt, bind, Except.bind, pure, Except.pure]
  split_ifs
  · exact ⟨true, rfl⟩
  · cases right <;> exact ⟨_, rfl⟩
  · cases right <;> exact ⟨_, rfl⟩

/-- What a teacher reads who is user `t`: their own drafts, and what has left the draft, but with
the permission to read events alone while the resources are planned and the budget is approved. -/
def TeacherReads (actor : Actor) (t : Nat) (e : EventRow) : Prop :=
  match e.status with
  | .draft => e.createdBy = t
  | .resourcePlanning | .financeApproval => "event:read" ∈ actor.user.roles
  | _ => True

theorem check_teacher {t : Nat} (hid : actor.id = .number t)
    (hteacher : "teacher" ∈ actor.user.roles)
    (hbroad : actor.user.roles.any (· ∈ broadRoles) = false)
    (hadmin : actor.isOneOf ["admin", "*"] = false) (e : EventRow) :
    checkEventPermission actor e .read = .ok true ↔ TeacherReads actor t e := by
  have hroles : actor.roles = actor.user.roles := by
    unfold Actor.roles
    rw [if_neg (List.ne_nil_of_mem hteacher)]
  have hnone : actor.isOneOf ["super_admin", "school_admin", "admin", "*"] = false := by
    unfold Actor.isOneOf at hadmin ⊢
    rw [hroles] at hadmin ⊢
    simp only [List.any_eq_false, broadRoles] at hadmin hbroad ⊢
    intro role hrole
    have h := hadmin role hrole
    have h' := hbroad role hrole
    simp only [List.mem_cons, List.not_mem_nil, decide_eq_true_eq] at h h' ⊢
    tauto
  unfold checkEventPermission TeacherReads
  rw [hid, hnone, hroles]
  dsimp only [ParsedId.toInt, bind, Except.bind, pure, Except.pure]
  rw [if_neg Bool.false_ne_true]
  -- no manager is among the teachers who see less than everything
  have hmanager : "manager" ∉ actor.user.roles := by
    intro hmem
    have h := List.any_eq_false.1 hbroad _ hmem
    exact h (by decide)
  have hnobody : ∀ status, status = .resourcePlanning ∨ status = .financeApproval →
      actor.user.roles.any (roleReads status) = false := by
    rintro status (rfl | rfl)
    all_goals
      refine List.any_eq_false.2 fun role hrole => ?_
      have hnot : role ≠ "manager" := fun h => hmanager (h ▸ hrole)
      simp [roleReads, hnot]
  have hsome : ∀ status ∈ [EventStatus.published, .approved, .proposed, .finalReview],
      actor.user.roles.any (roleReads status) = true := by
    intro status hstatus
    refine List.any_eq_true.2 ⟨"teacher", hteacher, ?_⟩
    simp [roleReads, hstatus]
  cases hstatus : e.status with
  | draft =>
    simp only [if_true, Except.ok.injEq, decide_eq_true_eq]
    omega
  | resourcePlanning => simp [hnobody]
  | financeApproval => simp [hnobody]
  | proposed => simp [hsome]
  | approved => simp [hsome]
  | finalReview => simp [hsome]
  | published => simp [hsome]

/-! ## What the list holds

Every event of the list comes from a row of the table, read with its classes. Nothing but the
state `d` is ever read. -/

/-- A reader of the state `d`, of whose results `Q` holds. -/
abbrev ReadsOnly {α : Type} (d : Db) (Q : α → Prop) (p : Task α) : Prop :=
  Meets (· = d) (fun _ => True) Q p.seq

theorem readsOnly_ofExcept {α : Type} (x : Except PyError α) :
    ReadsOnly d (fun a => x = .ok a) (ofExcept x) := by
  cases x with
  | ok a => exact meets_pure rfl
  | error e => exact meets_throw trivial

theorem readsOnly_look {α : Type} (f : Db → α) : ReadsOnly d (· = f d) (Proc.look f : Task α) := by
  unfold ReadsOnly
  rw [Proc.seq_look]
  exact meets_query fun s hs => by rw [hs]

theorem readsOnly_bind {α β : Type} {P : α → Prop} {Q : β → Prop} {p : Task α} {f : α → Task β}
    (hp : ReadsOnly d P p) (hf : ∀ a, P a → ReadsOnly d Q (f a)) : ReadsOnly d Q (p >>= f) := by
  unfold ReadsOnly
  rw [Proc.seq_bind]
  exact meets_bind hp hf

theorem readsOnly_foldlM {α β : Type} {Q : β → Prop} {f : β → α → Task β} {xs : List α} {b : β}
    (hb : Q b) (h : ∀ b, Q b → ∀ x ∈ xs, ReadsOnly d Q (f b x)) :
    ReadsOnly d Q (xs.foldlM f b) := by
  unfold ReadsOnly
  rw [Proc.seq_foldlM]
  exact meets_foldlM hb h

theorem readsOnly_withClasses (rows : List EventRow) : ReadsOnly d
    (fun events => ∀ ev ∈ events, ev.row ∈ rows ∧ ev.classMappings = classMappings d.val ev.row.id)
    (withClasses rows) := by
  unfold withClasses ReadsOnly
  rw [Proc.seq_mapM]
  refine meets_mapM fun row hrow => ?_
  refine readsOnly_bind (readsOnly_look _) fun mappings hmappings => meets_pure ⟨hrow, hmappings⟩

/-- The row of the event is in the table, but for the reason that it was rejected. -/
def Recorded (d : Db) (row : EventRow) : Prop :=
  ∃ e, d.val.event? row.id = some e ∧ e.status = row.status ∧ e.createdBy = row.createdBy

theorem recorded_of_mem {e : EventRow} (he : e ∈ d.val.events) : Recorded d e :=
  ⟨e, d.ok.keys.events.find?_eq_some.2 ⟨he, rfl⟩, rfl, rfl⟩

theorem readsOnly_getAllEvents : ReadsOnly d
    (fun events => ∀ ev ∈ events, Recorded d ev.row ∧
      ev.classMappings = classMappings d.val ev.row.id)
    getAllEvents := by
  unfold getAllEvents
  refine readsOnly_bind (readsOnly_look _) fun rows hrows => ?_
  refine (readsOnly_withClasses rows).mono fun events hevents ev hev => ?_
  obtain ⟨hrow, hmappings⟩ := hevents ev hev
  rw [hrows, byDate, List.mem_insertionSort] at hrow
  exact ⟨recorded_of_mem hrow, hmappings⟩

theorem readsOnly_getEventsForStudent (studentId : Nat) : ReadsOnly d
    (fun events => ∀ ev ∈ events, Recorded d ev.row) (getEventsForStudent studentId) := by
  unfold getEventsForStudent
  refine readsOnly_bind (readsOnly_look _) fun classId _ => ?_
  cases classId with
  | none => exact meets_pure (by simp)
  | some classId =>
    refine readsOnly_bind (readsOnly_look _) fun rows hrows => ?_
    refine (readsOnly_withClasses rows).mono fun events hevents ev hev => ?_
    obtain ⟨hrow, -⟩ := hevents ev hev
    rw [hrows, publishedFor, byDate, List.mem_insertionSort] at hrow
    obtain ⟨e, he, hshown⟩ := List.mem_map.1 hrow
    obtain ⟨e', he', hstatus, hcreator⟩ := recorded_of_mem (List.mem_of_mem_filter he)
    rw [← hshown]
    exact ⟨e', he', hstatus, hcreator⟩

/-- An event that the permission check lets the actor read is readable as the table has it. -/
theorem Recorded.readable {row : EventRow} (h : Recorded d row) (hroles : actor.user.roles ≠ [])
    (hread : checkEventPermission (viewer actor) row .read = .ok true) :
    Readable actor d row.id := by
  obtain ⟨e, he, hstatus, hcreator⟩ := h
  rw [check_viewer hroles] at hread
  exact ⟨e, he, (check_congr hstatus hcreator .read).trans hread⟩

/-- All of them may be read. -/
def AllReadable (actor : Actor) (d : Db) (events : List Event) : Prop :=
  ∀ ev ∈ events, Readable actor d ev.row.id

theorem AllReadable.append {events : List Event} {ev : Event} (h : AllReadable actor d events)
    (hev : Readable actor d ev.row.id) : AllReadable actor d (events ++ [ev]) := by
  intro x hx
  rcases List.mem_append.1 hx with hx | hx
  · exact h x hx
  · rw [List.mem_singleton.1 hx]
    exact hev

theorem AllReadable.mergeEvent {events : List Event} {ev : Event} (h : AllReadable actor d events)
    (hev : Readable actor d ev.row.id) : AllReadable actor d (mergeEvent events ev) := by
  unfold TenantService.mergeEvent
  split_ifs with hany
  · intro x hx
    obtain ⟨e, he, rfl⟩ := List.mem_map.1 hx
    split_ifs <;> exact h e he
  · exact h.append hev

theorem AllReadable.addNew {added events : List Event} (hadded : AllReadable actor d added)
    (hevents : AllReadable actor d events) : AllReadable actor d (events.foldl addNew added) := by
  induction events generalizing added with
  | nil => exact hadded
  | cons ev events ih =>
    rw [List.foldl_cons]
    refine ih ?_ fun x hx => hevents x (List.mem_cons_of_mem ev hx)
    unfold TenantService.addNew
    split_ifs
    · exact hadded
    · exact hadded.append (hevents ev List.mem_cons_self)

section Sources

variable (hroles : actor.user.roles ≠ [])
include hroles

theorem readsOnly_addReadable {also : Event → Bool} {events : List Event} {ev : Event}
    (hevents : AllReadable actor d events) (hev : Recorded d ev.row)
    (halso : also ev = true → Readable actor d ev.row.id) :
    ReadsOnly d (AllReadable actor d) (addReadable (viewer actor) also events ev) := by
  unfold addReadable
  refine readsOnly_bind (readsOnly_ofExcept _) fun readable hread => meets_pure ?_
  split_ifs with hadd
  · rcases Bool.or_eq_true_iff.1 hadd with rfl | h
    · exact hevents.append (hev.readable hroles hread)
    · exact hevents.append (halso h)
  · exact hevents

theorem readsOnly_addVisible {also : Event → Bool} {added : List Event} {ev : Event}
    (hadded : AllReadable actor d added) (hev : Recorded d ev.row)
    (halso : also ev = true → Readable actor d ev.row.id) :
    ReadsOnly d (AllReadable actor d) (addVisible (viewer actor) also added ev) := by
  unfold addVisible
  split_ifs
  · exact meets_pure hadded
  · exact readsOnly_addReadable hroles hadded hev halso

theorem readsOnly_studentEvents {added : List Event} (hadded : AllReadable actor d added) :
    ReadsOnly d (AllReadable actor d) (studentEvents actor added) := by
  unfold studentEvents
  refine readsOnly_bind (readsOnly_ofExcept _) fun userId _ => ?_
  refine readsOnly_bind (readsOnly_getEventsForStudent userId) fun events hevents => ?_
  refine readsOnly_foldlM hadded fun b hb ev hev => ?_
  exact readsOnly_addVisible hroles hb (hevents ev hev) (by simp)

theorem readsOnly_mergeChild {events : List Event} (hevents : AllReadable actor d events)
    (child : Nat) :
    ReadsOnly d (AllReadable actor d) (mergeChild (viewer actor) events child) := by
  unfold mergeChild
  refine readsOnly_bind (readsOnly_getEventsForStudent child) fun childEvents hchild => ?_
  refine readsOnly_foldlM hevents fun b hb ev hev => ?_
  unfold mergeReadable
  refine readsOnly_bind (readsOnly_ofExcept _) fun readable hread => meets_pure ?_
  split_ifs with hadd
  · subst hadd
    exact hb.mergeEvent ((hchild ev hev).readable hroles hread)
  · exact hb

theorem readsOnly_parentEvents {added : List Event} (hadded : AllReadable actor d added) :
    ReadsOnly d (AllReadable actor d) (parentEvents actor added) := by
  unfold parentEvents
  refine readsOnly_bind (readsOnly_ofExcept _) fun userId _ => ?_
  refine readsOnly_bind (readsOnly_look _) fun children _ => ?_
  have hnone : AllReadable actor d [] := fun _ h => absurd h List.not_mem_nil
  refine readsOnly_bind (readsOnly_foldlM hnone fun b hb child _ =>
    readsOnly_mergeChild hroles hb child) fun events hevents => ?_
  exact meets_pure (hadded.addNew hevents)

end Sources

/-! ## The list of a teacher -/

/-- The event is for a class that user `t` heads. -/
def HeadsClassOf (d : Db) (t : Nat) (e : EventRow) : Prop :=
  ∃ m ∈ d.val.eventClasses, m.eventId = e.id ∧ ∃ c ∈ d.val.classes, c.id = m.classId ∧
    c.headTeacherId = some t

theorem headsClassOf_iff {t : Nat} {e : EventRow} :
    HeadsClassOf d t e ↔ ∃ m ∈ classMappings d.val e.id,
    m.classId ∈ getClassesByHeadTeacher d.val t := by
  constructor
  · rintro ⟨m, hm, hmid, c, hc, hcid, hhead⟩
    obtain ⟨mapping, hmapping, hclass⟩ := classMapping_some hm
    refine ⟨mapping, ?_, ?_⟩
    · exact List.mem_filterMap.2 ⟨m, List.mem_filter.2 ⟨hm, by simpa using hmid⟩, hmapping⟩
    · rw [hclass, ← hcid]
      exact List.mem_map.2 ⟨c, List.mem_filter.2 ⟨hc, by simpa using hhead⟩, rfl⟩
  · rintro ⟨mapping, hmapping, hclass⟩
    obtain ⟨m, hm, hmapping⟩ := List.mem_filterMap.1 hmapping
    obtain ⟨hm, hmid⟩ := List.mem_filter.1 hm
    obtain ⟨mapping', hmapping', hclass'⟩ := classMapping_some hm
    rw [hmapping, Option.some.injEq] at hmapping'
    subst hmapping'
    obtain ⟨c, hc, hcid⟩ := List.mem_map.1 hclass
    obtain ⟨hc, hhead⟩ := List.mem_filter.1 hc
    exact ⟨m, hm, by simpa using hmid, c, hc, hcid.trans hclass', by simpa using hhead⟩

/-- Everything for the classes that the actor heads is readable to them. -/
def HeadedReadable (actor : Actor) (d : Db) : Prop :=
  ∀ t, actor.id = .number t → ∀ e ∈ d.val.events, HeadsClassOf d t e → Readable actor d e.id

theorem readsOnly_teacherEvents (hroles : actor.user.roles ≠ []) (hheaded : HeadedReadable actor d)
    {added : List Event} (hadded : AllReadable actor d added) :
    ReadsOnly d (AllReadable actor d) (teacherEvents actor added) := by
  unfold teacherEvents
  refine readsOnly_bind (readsOnly_ofExcept _) fun userId huser => ?_
  have hid : actor.id = .number userId := by
    cases hx : actor.id with
    | number n =>
      rw [hx] at huser
      cases huser
      rfl
    | other asInt =>
      rw [hx] at huser
      cases huser
  refine readsOnly_bind (readsOnly_look _) fun teacherClassIds hclasses => ?_
  refine readsOnly_bind readsOnly_getAllEvents fun events hevents => ?_
  refine readsOnly_foldlM hadded fun b hb ev hev => ?_
  obtain ⟨hrecorded, hmappings⟩ := hevents ev hev
  refine readsOnly_addVisible hroles hb hrecorded fun halso => ?_
  obtain ⟨m, hm, hmem⟩ := List.any_eq_true.1 halso
  rw [hmappings] at hm
  obtain ⟨e, he, -⟩ := hrecorded
  obtain ⟨he, heid⟩ := d.ok.keys.events.find?_eq_some.1 he
  rw [← heid] at hm ⊢
  refine hheaded userId hid e he (headsClassOf_iff.2 ⟨m, hm, ?_⟩)
  rw [← hclasses]
  exact of_decide_eq_true hmem

theorem readsOnly_getEventsForUser (hroles : actor.user.roles ≠ [])
    (hheaded : actor.user.roles.any (· ∈ broadRoles) = false → "teacher" ∈ actor.user.roles →
      HeadedReadable actor d) :
    ReadsOnly d (AllReadable actor d) (getEventsForUser actor) := by
  have hnone : AllReadable actor d [] := fun _ h => absurd h List.not_mem_nil
  unfold getEventsForUser
  by_cases hbroad : actor.user.roles.any (· ∈ broadRoles) = true
  · rw [if_pos hbroad]
    refine readsOnly_bind readsOnly_getAllEvents fun events hevents => ?_
    refine readsOnly_foldlM hnone fun b hb ev hev => ?_
    exact readsOnly_addReadable hroles hb (hevents ev hev).1 (by simp)
  · rw [if_neg hbroad]
    have hsource : ∀ (role : String) (source : Actor → List Event → Task (List Event)),
        (∀ added, role ∈ actor.user.roles → AllReadable actor d added →
          ReadsOnly d (AllReadable actor d) (source actor added)) →
        ∀ added, AllReadable actor d added →
          ReadsOnly d (AllReadable actor d) (forRole actor role source added) := by
      intro role source hsource added hadded
      unfold forRole
      by_cases hrole : role ∈ actor.user.roles
      · rw [if_pos hrole]
        exact hsource added hrole hadded
      · rw [if_neg hrole]
        exact meets_pure hadded
    refine readsOnly_bind (hsource _ _ (fun added hteacher hadded => readsOnly_teacherEvents hroles
      (hheaded (Bool.eq_false_of_not_eq_true hbroad) hteacher) hadded) _ hnone) fun added hadded =>
        ?_
    refine readsOnly_bind
      (hsource _ _ (fun added _ hadded => readsOnly_studentEvents hroles hadded) _
      hadded) fun added hadded => ?_
    refine readsOnly_bind
      (hsource _ _ (fun added _ hadded => readsOnly_parentEvents hroles hadded) _
      hadded) fun added hadded => ?_
    refine meets_pure fun ev hev => hadded ev ?_
    exact (List.mem_insertionSort _).1 hev

/-! ## The list is there

Who has a number for an id is always answered, and no source of events drops what another has
added. -/

/-- A reader of the state `d` that returns, with a result of `Q`. -/
abbrev ReadsOut {α : Type} (d : Db) (Q : α → Prop) (p : Task α) : Prop :=
  Programs.Reaches (fun a s => s = d ∧ Q a) p.seq d

theorem readsOut_bind {α β : Type} {P : α → Prop} {Q : β → Prop} {p : Task α} {f : α → Task β}
    (hp : ReadsOut d P p) (hf : ∀ a, P a → ReadsOut d Q (f a)) : ReadsOut d Q (p >>= f) := by
  refine Proc.reaches_bind hp fun a s h => ?_
  rw [h.1]
  exact hf a h.2

theorem readsOut_pure {α : Type} {Q : α → Prop} {a : α} (h : Q a) : ReadsOut d Q (pure a) :=
  Proc.reaches_ret ⟨rfl, h⟩

theorem readsOut_look {α : Type} (f : Db → α) : ReadsOut d (· = f d) (Proc.look f : Task α) :=
  Proc.reaches_look ⟨rfl, rfl⟩

theorem readsOut_withClasses (rows : List EventRow) : ReadsOut d
    (· = rows.map fun row => ⟨row, classMappings d.val row.id⟩) (withClasses rows) := by
  unfold withClasses ReadsOut
  rw [Proc.seq_mapM]
  refine (reaches_mapM (I := (· = d)) (fun row _ s hs => ?_) rfl).mono fun _ _ h => h.symm
  rw [hs]
  refine (readsOut_bind (Q := (· = ⟨row, classMappings d.val row.id⟩)) (readsOut_look _)
    fun mappings hmappings => ?_).mono fun _ _ h => h.symm
  exact readsOut_pure (by rw [hmappings])

theorem readsOut_getAllEvents : ReadsOut d
    (fun events => ∀ e ∈ d.val.events, ⟨e, classMappings d.val e.id⟩ ∈ events) getAllEvents := by
  unfold getAllEvents
  refine readsOut_bind (readsOut_look _) fun rows hrows => ?_
  refine (readsOut_withClasses rows).mono fun events _ h => ⟨h.1, fun e he => ?_⟩
  rw [h.2, hrows]
  exact List.mem_map.2 ⟨e, (List.mem_insertionSort _).2 he, rfl⟩

theorem readsOut_getEventsForStudent (studentId : Nat) :
    ReadsOut d (fun _ => True) (getEventsForStudent studentId) := by
  unfold getEventsForStudent
  refine readsOut_bind (readsOut_look _) fun classId _ => ?_
  cases classId with
  | none => exact readsOut_pure trivial
  | some classId =>
    refine readsOut_bind (readsOut_look _) fun rows _ => ?_
    exact (readsOut_withClasses rows).mono fun _ _ h => ⟨h.1, trivial⟩

/-- The list holds an event of this id. -/
def Holds (events : List Event) (eventId : Nat) : Prop := ∃ ev ∈ events, ev.row.id = eventId

/-- What the list holds, it still holds. -/
def Extends (events events' : List Event) : Prop := ∀ i, Holds events i → Holds events' i

theorem extends_append (events : List Event) (ev : Event) : Extends events (events ++ [ev]) :=
  fun _ ⟨x, hx, hid⟩ => ⟨x, List.mem_append_left _ hx, hid⟩

theorem holds_append (events : List Event) (ev : Event) : Holds (events ++ [ev]) ev.row.id :=
  ⟨ev, List.mem_append_right _ (List.mem_singleton_self ev), rfl⟩

theorem extends_addNew (events added : List Event) : Extends added (events.foldl addNew added) := by
  induction events generalizing added with
  | nil => exact fun _ h => h
  | cons ev events ih =>
    intro i hi
    rw [List.foldl_cons]
    apply ih
    unfold addNew
    split_ifs
    · exact hi
    · exact extends_append added ev i hi

theorem readsOut_forRole {role : String} {source : Actor → List Event → Task (List Event)}
    {added : List Event} (h : ReadsOut d (Extends added) (source actor added)) :
    ReadsOut d (Extends added) (forRole actor role source added) := by
  unfold forRole
  split_ifs
  · exact h
  · exact readsOut_pure fun _ h => h

section Numbered

variable {t : Nat} (hid : actor.id = .number t)
include hid

theorem readsOut_check (e : EventRow) (right : EventRight) : ReadsOut d (fun _ => True)
    (ofExcept (checkEventPermission (viewer actor) e right)) := by
  have hviewer : (viewer actor).id = .number t := hid
  obtain ⟨b, hb⟩ := check_returns hviewer e right
  rw [hb]
  exact readsOut_pure trivial

theorem readsOut_addVisible (also : Event → Bool) (added : List Event) (ev : Event) : ReadsOut d
    (fun out => Extends added out ∧ (also ev = true → Holds out ev.row.id))
    (addVisible (viewer actor) also added ev) := by
  unfold addVisible
  split_ifs with hany
  · obtain ⟨x, hx, hxid⟩ := List.any_eq_true.1 hany
    exact readsOut_pure ⟨fun _ h => h, fun _ => ⟨x, hx, of_decide_eq_true hxid⟩⟩
  · unfold addReadable
    refine readsOut_bind (readsOut_check hid _ _) fun readable _ => readsOut_pure ?_
    split_ifs with hadd
    · exact ⟨extends_append added ev, fun _ => holds_append added ev⟩
    · exact ⟨fun _ h => h, fun halso => absurd (by simp [halso]) hadd⟩

/-- What is to be added of a list of events is there in the end. -/
theorem readsOut_addAll (also : Event → Bool) (events added : List Event) : ReadsOut d
    (fun out => Extends added out ∧ ∀ ev ∈ events, also ev = true → Holds out ev.row.id)
    (events.foldlM (addVisible (viewer actor) also) added) := by
  induction events generalizing added with
  | nil => exact readsOut_pure ⟨fun _ h => h, fun _ h => absurd h List.not_mem_nil⟩
  | cons ev events ih =>
    rw [List.foldlM_cons]
    refine readsOut_bind (readsOut_addVisible hid also added ev) fun out hout => ?_
    refine (ih out).mono fun final _ h => ⟨h.1, fun i hi => h.2.1 i (hout.1 i hi), ?_⟩
    intro x hx halso
    rcases List.mem_cons.1 hx with rfl | hx
    · exact h.2.1 _ (hout.2 halso)
    · exact h.2.2 x hx halso

theorem readsOut_userId : ReadsOut d (· = t) (ofExcept actor.id.column) := by
  rw [hid]
  exact readsOut_pure rfl

theorem readsOut_teacherEvents (added : List Event) : ReadsOut d
    (fun out => ∀ e ∈ d.val.events, HeadsClassOf d t e → Holds out e.id)
      (teacherEvents actor added) := by
  unfold teacherEvents
  refine readsOut_bind (readsOut_userId hid) fun userId huser => ?_
  refine readsOut_bind (readsOut_look _) fun classes hclasses => ?_
  refine readsOut_bind readsOut_getAllEvents fun events hevents => ?_
  refine (readsOut_addAll hid _ events added).mono fun out _ h => ⟨h.1, fun e he hheads => ?_⟩
  obtain ⟨m, hm, hmem⟩ := headsClassOf_iff.1 hheads
  refine h.2.2 _ (hevents e he) (List.any_eq_true.2 ⟨m, hm, ?_⟩)
  rw [hclasses, huser]
  exact decide_eq_true hmem

theorem readsOut_studentEvents (added : List Event) :
    ReadsOut d (Extends added) (studentEvents actor added) := by
  unfold studentEvents
  refine readsOut_bind (readsOut_userId hid) fun userId _ => ?_
  refine readsOut_bind (readsOut_getEventsForStudent userId) fun events _ => ?_
  exact (readsOut_addAll hid _ events added).mono fun out _ h => ⟨h.1, h.2.1⟩

theorem readsOut_mergeChild (events : List Event) (child : Nat) :
    ReadsOut d (fun _ => True) (mergeChild (viewer actor) events child) := by
  unfold mergeChild
  refine readsOut_bind (readsOut_getEventsForStudent child) fun childEvents _ => ?_
  unfold ReadsOut
  rw [Proc.seq_foldlM]
  refine reaches_foldlM (I := fun _ s => s = d ∧ True) (fun b s hs ev _ => ?_) ⟨rfl, trivial⟩
  rw [hs.1]
  exact readsOut_bind (readsOut_check hid _ _) fun readable _ => readsOut_pure trivial

theorem readsOut_parentEvents (added : List Event) :
    ReadsOut d (Extends added) (parentEvents actor added) := by
  unfold parentEvents
  refine readsOut_bind (readsOut_userId hid) fun userId _ => ?_
  refine readsOut_bind (readsOut_look _) fun children _ => ?_
  refine readsOut_bind (P := fun _ => True) ?_ fun events _ =>
    readsOut_pure (extends_addNew events added)
  unfold ReadsOut
  rw [Proc.seq_foldlM]
  refine reaches_foldlM (I := fun _ s => s = d ∧ True) (fun b s hs child _ => ?_) ⟨rfl, trivial⟩
  rw [hs.1]
  exact readsOut_mergeChild hid b child

/-- The list of a teacher holds the events for the classes that they head. -/
theorem readsOut_getEventsForUser (hbroad : actor.user.roles.any (· ∈ broadRoles) = false)
    (hteacher : "teacher" ∈ actor.user.roles) : ReadsOut d
    (fun events => ∀ e ∈ d.val.events, HeadsClassOf d t e → Holds events e.id)
      (getEventsForUser actor) := by
  unfold getEventsForUser
  rw [hbroad, if_neg Bool.false_ne_true]
  refine readsOut_bind (P := fun out => ∀ e ∈ d.val.events, HeadsClassOf d t e → Holds out e.id) ?_
    fun added hadded => ?_
  · unfold forRole
    rw [if_pos hteacher]
    exact readsOut_teacherEvents hid []
  refine readsOut_bind (readsOut_forRole (readsOut_studentEvents hid added)) fun withStudent hs =>
    ?_
  refine readsOut_bind (readsOut_forRole (readsOut_parentEvents hid withStudent)) fun all hp => ?_
  refine readsOut_pure fun e he hheads => ?_
  obtain ⟨ev, hev, hevid⟩ := hp e.id (hs e.id (hadded e he hheads))
  exact ⟨ev, (List.mem_insertionSort _).2 hev, hevid⟩

end Numbered

/-! ## The law -/

/-- Every event for a class that the actor heads is one that they read as a teacher. -/
def HeadsWhatTheyRead (actor : Actor) (d : Db) : Prop :=
  ∀ t, actor.id = .number t → ∀ e ∈ d.val.events, HeadsClassOf d t e → TeacherReads actor t e

/-- Who heads the class of an event that is readable as the table has it. -/
theorem readable_of_listed (hlisted : ListedOpen actor d)
    (hbroad : actor.user.roles.any (· ∈ broadRoles) = false)
    (hteacher : "teacher" ∈ actor.user.roles)
    {t : Nat} (hid : actor.id = .number t) {e : EventRow} (he : e ∈ d.val.events)
    (hheads : HeadsClassOf d t e) : checkEventPermission actor e .read = .ok true := by
  obtain ⟨events, d', hok, -, hholds⟩ := readsOut_getEventsForUser (d := d) hid hbroad hteacher
  obtain ⟨ev, hev, hevid⟩ := hholds e he hheads
  obtain ⟨e', he', hread⟩ := openTo_iff.1 (hlisted events d' hok ev hev)
  have hfound : d.val.event? e.id = some e := d.ok.keys.events.find?_eq_some.2 ⟨he, rfl⟩
  rw [hevid, hfound, Option.some.injEq] at he'
  rw [he']
  exact hread

/-- An administrator reads every event. -/
theorem check_admin {t : Nat} (hid : actor.id = .number t)
    (hadmin : actor.isOneOf ["admin", "*"] = true)
    (e : EventRow) (right : EventRight) : checkEventPermission actor e right = .ok true := by
  have hall : actor.isOneOf ["super_admin", "school_admin", "admin", "*"] = true := by
    unfold Actor.isOneOf at hadmin ⊢
    obtain ⟨role, hrole, hname⟩ := List.any_eq_true.1 hadmin
    refine List.any_eq_true.2 ⟨role, hrole, ?_⟩
    have hname := of_decide_eq_true hname
    simp only [List.mem_cons, List.not_mem_nil, decide_eq_true_eq] at hname ⊢
    tauto
  unfold checkEventPermission
  rw [hid, hall]
  rfl

/-- **What is listed can be opened** exactly when the user is shown everything that they may read,
or is no teacher, or is an administrator, or reads every event for a class that they head. -/
theorem listed_iff (actor : Actor) (d : Db) : ListedOpen actor d ↔
    actor.user.roles.any (· ∈ broadRoles) = true ∨ "teacher" ∉ actor.user.roles ∨
      actor.isOneOf ["admin", "*"] = true ∨ HeadsWhatTheyRead actor d := by
  constructor
  · intro hlisted
    by_contra hnot
    push Not at hnot
    obtain ⟨hbroad, hteacher, hadmin, hheads⟩ := hnot
    have hbroad := Bool.eq_false_of_not_eq_true hbroad
    refine hheads fun t hid e he hhead => ?_
    exact (check_teacher hid hteacher hbroad (Bool.eq_false_of_not_eq_true hadmin) e).1
      (readable_of_listed hlisted hbroad hteacher hid he hhead)
  · intro hcases events d' hok ev hev
    rw [openTo_iff]
    by_cases hroles : actor.user.roles = []
    · -- without roles there is nothing in the list
      unfold getEventsForUser forRole at hok
      rw [hroles] at hok
      obtain ⟨rfl, -⟩ := pure_eq_ok.1 hok
      cases hev
    · refine ((readsOnly_getEventsForUser hroles fun hbroad hteacher => ?_).ok rfl hok).2 ev hev
      intro t hid e he hheads
      refine ⟨e, d.ok.keys.events.find?_eq_some.2 ⟨he, rfl⟩, ?_⟩
      rcases hcases with h | h | h | h
      · rw [hbroad] at h
        cases h
      · exact absurd hteacher h
      · exact check_admin hid h e .read
      · by_cases hadmin : actor.isOneOf ["admin", "*"] = true
        · exact check_admin hid hadmin e .read
        · exact (check_teacher hid hteacher hbroad (Bool.eq_false_of_not_eq_true hadmin) e).2
            (h t hid e he hheads)

/-! ## The draft of another teacher -/

/-- A teacher heads a class, and another has a draft for it. -/
def headedTrip : Db where
  val := { (othersTrip .draft).val with
    teachers := [⟨2, "T"⟩, ⟨3, "C"⟩]
    classes := [⟨1, "G1 - A", 1, some 2, 25, true, 1, some "A"⟩]
    eventClasses := [{ id := 1, eventId := 1, classId := 1 }] }
  ok := by decide +kernel

/-- The head teacher is listed the draft, and may not open it. -/
theorem draft_listed : ¬ListedOpen teacherActor headedTrip := by
  intro hlisted
  have hbroad : teacherActor.user.roles.any (· ∈ broadRoles) = false := by decide
  have hteacher : "teacher" ∈ teacherActor.user.roles := by decide
  have hread := readable_of_listed hlisted hbroad hteacher (t := 2) rfl
    (e := { id := 1, title := "Museum", date := 0, createdBy := 3, createdAt := 0 })
    (List.mem_singleton_self _)
    ⟨_, List.mem_singleton_self _, rfl, _, List.mem_singleton_self _, rfl, rfl⟩
  have hdenied : checkEventPermission teacherActor
      { id := 1, title := "Museum", date := 0, createdBy := 3, createdAt := 0 } .read =
        .ok false := by
    decide +kernel
  rw [hdenied] at hread
  cases hread

end Sams.Trips
