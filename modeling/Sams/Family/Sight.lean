import Sams.Family.Overview

/-!
# The events that a parent sees

A parent is shown the published events of the classes that their children are in now, each with all
of its classes (**`eventsForParent_eq`**).
-/

namespace Sams.Family

open School Programs Interleaving Trips TenantService

variable {d : Db}

/-- An event as it is shown: without the reason of a rejection, and with all of its classes. -/
def seen (d : Db) (e : EventRow) :
    Event := ⟨{ e with rejectionReason := none }, classMappings d.val e.id⟩

/-- A published event of the class. -/
def ForClass (d : Db) (classId : Nat) (e : EventRow) : Prop :=
  e.status = .published ∧ ∃ m ∈ d.val.eventClasses, m.eventId = e.id ∧ m.classId = classId

/-- A child of the parent is in a class of the event, and the event is published. -/
def SeenBy (d : Db) (parentId : Nat) (e : EventRow) : Prop :=
  ∃ s ∈ linkedStudents d.val parentId, ∃ classId, s.classId = some classId ∧ ForClass d classId e

/-- Every event of the list is one of the table, as it is shown. -/
def Shows (d : Db) (events : List Event) : Prop := ∀ ev ∈ events, ∃ e ∈ d.val.events, ev = seen d e

/-- An event is known by its id. -/
theorem seen_unique {e e' : EventRow} (he : e ∈ d.val.events) (he' : e' ∈ d.val.events)
    (h : (seen d e).row.id = (seen d e').row.id) : seen d e = seen d e' := by
  rw [d.ok.keys.events.eq_of_key_eq he he' h]

theorem mem_mergeEvent {events : List Event} {ev x : Event} (hevents : Shows d events)
    (hev : ∃ e ∈ d.val.events, ev = seen d e) : x ∈ mergeEvent events ev ↔ x ∈ events ∨ x = ev := by
  obtain ⟨e, he, rfl⟩ := hev
  have hsame : ∀ y ∈ events, y.row.id = (seen d e).row.id → y = seen d e := by
    intro y hy hid
    obtain ⟨e', he', rfl⟩ := hevents y hy
    exact seen_unique he' he hid
  unfold mergeEvent
  by_cases hthere : events.any fun y => y.row.id = (seen d e).row.id
  · rw [if_pos hthere]
    -- nothing is new in the classes of an event that is there
    have hmap : (events.map fun y =>
        if y.row.id = (seen d e).row.id then
          { y with classMappings := y.classMappings ++ (seen d e).classMappings.filter fun m =>
              ¬y.classMappings.any fun m' => m'.id = m.id }
        else y) = events := by
      refine (List.map_congr_left fun y hy => ?_).trans (List.map_id events)
      by_cases hid : y.row.id = (seen d e).row.id
      · rw [if_pos hid, hsame y hy hid]
        have hnone : (seen d e).classMappings.filter (fun m =>
            ¬(seen d e).classMappings.any fun m' => m'.id = m.id) = [] := by
          refine List.filter_eq_nil_iff.2 fun m hm => ?_
          simp only [decide_eq_true_eq, not_not, List.any_eq_true]
          exact ⟨m, hm, rfl⟩
        rw [hnone, List.append_nil]
        rfl
      · rw [if_neg hid]
        rfl
    rw [hmap]
    obtain ⟨y, hy, hid⟩ := List.any_eq_true.1 hthere
    have hmem : seen d e ∈ events := hsame y hy (of_decide_eq_true hid) ▸ hy
    constructor
    · exact .inl
    · intro h
      rcases h with h | rfl
      · exact h
      · exact hmem
  · rw [if_neg hthere, List.mem_append, List.mem_singleton]

theorem Shows.mergeEvent {events : List Event} {ev : Event} (hevents : Shows d events)
    (hev : ∃ e ∈ d.val.events, ev = seen d e) : Shows d (mergeEvent events ev) := by
  intro x hx
  rcases (mem_mergeEvent hevents hev).1 hx with hx | rfl
  · exact hevents x hx
  · exact hev

theorem mem_foldl_mergeEvent {events evs : List Event} {x : Event} (hevents : Shows d events)
    (hevs : Shows d evs) : (x ∈ evs.foldl mergeEvent events ↔ x ∈ events ∨ x ∈ evs) ∧
      Shows d (evs.foldl mergeEvent events) := by
  induction evs generalizing events with
  | nil => exact ⟨by simp, hevents⟩
  | cons ev evs ih =>
    have hev := hevs ev (by simp)
    obtain ⟨hmem, hshows⟩ := ih (hevents.mergeEvent hev) fun y hy => hevs y (by simp [hy])
    refine ⟨?_, hshows⟩
    rw [List.foldl_cons, hmem, mem_mergeEvent hevents hev, List.mem_cons, or_assoc]

theorem mem_foldl_addNew {added events : List Event} {x : Event} (hadded : Shows d added)
    (hevents : Shows d events) : x ∈ events.foldl addNew added ↔ x ∈ added ∨ x ∈ events := by
  induction events generalizing added with
  | nil => simp
  | cons ev events ih =>
    obtain ⟨e, he, hev⟩ := hevents ev (by simp)
    have hone : ∀ y, y ∈ addNew added ev ↔ y ∈ added ∨ y = ev := by
      intro y
      unfold addNew
      by_cases hthere : added.any fun z => z.row.id = ev.row.id
      · rw [if_pos hthere]
        obtain ⟨z, hz, hid⟩ := List.any_eq_true.1 hthere
        obtain ⟨e', he', hze⟩ := hadded z hz
        have hsame : z = ev := by
          rw [hze, hev] at hid ⊢
          exact seen_unique he' he (of_decide_eq_true hid)
        constructor
        · exact .inl
        · intro h
          rcases h with h | h
          · exact h
          · rw [h, ← hsame]
            exact hz
      · rw [if_neg hthere, List.mem_append, List.mem_singleton]
    have hshows : Shows d (addNew added ev) := by
      intro y hy
      rcases (hone y).1 hy with hy | hy
      · exact hadded y hy
      · exact ⟨e, he, hy.trans hev⟩
    rw [List.foldl_cons, ih hshows fun y hy => hevents y (by simp [hy]), hone,
      List.mem_cons, or_assoc]

/-! ## The reads -/

/-- The events of one child. -/
def childEvents (d : Db) (child : Nat) : List Event :=
  match (d.val.student? child).bind StudentRow.classId with
  | none => []
  | some classId => (Trips.TenantRepository.publishedFor d.val classId).map fun row =>
      ⟨row, classMappings d.val row.id⟩

theorem mem_childEvents {child : Nat} {x : Event} : x ∈ childEvents d child ↔
    ∃ classId, (d.val.student? child).bind StudentRow.classId = some classId ∧
      ∃ e ∈ d.val.events, ForClass d classId e ∧ x = seen d e := by
  unfold childEvents
  cases (d.val.student? child).bind StudentRow.classId with
  | none => simp
  | some classId =>
    unfold Trips.TenantRepository.publishedFor Trips.TenantRepository.byDate ForClass seen
    simp only [List.mem_map, List.mem_insertionSort, List.mem_filter, List.any_eq_true,
      decide_eq_true_eq, Option.some.injEq, exists_eq_left']
    constructor
    · intro h
      obtain ⟨row, ⟨e, ⟨he, hfor⟩, hrow⟩, hx⟩ := h
      refine ⟨e, he, hfor, ?_⟩
      rw [← hx, ← hrow]
    · intro h
      obtain ⟨e, he, hfor, hx⟩ := h
      exact ⟨_, ⟨e, ⟨he, hfor⟩, rfl⟩, hx.symm⟩

theorem shows_childEvents (d : Db) (child : Nat) : Shows d (childEvents d child) := by
  intro x hx
  obtain ⟨-, -, e, he, -, hx⟩ := mem_childEvents.1 hx
  exact ⟨e, he, hx⟩

theorem getEventsForStudent_eq (d : Db) (child : Nat) :
    (Trips.TenantRepository.getEventsForStudent child).seq d = .ok (childEvents d child) d := by
  unfold Trips.TenantRepository.getEventsForStudent childEvents
  rw [Proc.seq_bind, Proc.seq_look, query_bind]
  cases (d.val.student? child).bind StudentRow.classId with
  | none => rfl
  | some classId =>
    dsimp only
    rw [Proc.seq_bind, Proc.seq_look, query_bind]
    unfold Trips.TenantRepository.withClasses
    rw [Proc.seq_mapM]
    refine mapM_of_ok fun row _ => ?_
    rw [Proc.seq_bind, Proc.seq_look, query_bind]
    rfl

@[simp]
theorem asParent_roles (userId : Nat) : (asParent userId).user.roles = ["parent"] := rfl

/-- A parent reads what is published. -/
theorem check_parent (userId : Nat) {row : EventRow} (h : row.status = .published) :
    checkEventPermission (viewer (asParent userId)) row .read = .ok true := by
  unfold checkEventPermission Actor.isOneOf Actor.roles
  rw [h]
  rfl

theorem mergeChild_eq (d : Db) (userId : Nat) (events : List Event) (child : Nat) :
    (mergeChild (viewer (asParent userId)) events child).seq d =
      .ok ((childEvents d child).foldl mergeEvent events) d := by
  unfold mergeChild
  rw [Proc.seq_bind, bind_of_ok (getEventsForStudent_eq d child), Proc.seq_foldlM]
  refine foldlM_of_ok (fun b x hx => ?_) events
  obtain ⟨classId, -, e, -, hfor, rfl⟩ := mem_childEvents.1 hx
  unfold mergeReadable
  rw [check_parent userId (show (seen d e).row.status = .published from hfor.1)]
  rfl

/-- **The events of a parent**: they are read, and they are the published ones of the children's
classes. -/
theorem eventsForParent_eq (d : Db) (userId : Nat) :
    ∃ events, eventsForParent d userId = .ok events ∧
    ∀ x, x ∈ events ↔ ∃ e ∈ d.val.events, SeenBy d userId e ∧ x = seen d e := by
  let children := Trips.TenantRepository.getLinkedStudentsForParent d.val userId
  let merged :=
    children.foldl (fun events child => (childEvents d child).foldl mergeEvent events) []
  have hmerged : ∀ (cs : List Nat) (events : List Event), Shows d events → ∀ x,
      (x ∈ cs.foldl (fun events child => (childEvents d child).foldl mergeEvent events) events ↔
        x ∈ events ∨ ∃ child ∈ cs, x ∈ childEvents d child) ∧
      Shows d (cs.foldl (fun events child => (childEvents d child).foldl mergeEvent events)
        events) := by
    intro cs
    induction cs with
    | nil => exact fun events hevents x => ⟨by simp, hevents⟩
    | cons c cs ih =>
      intro events hevents x
      have hchild := fun y => mem_foldl_mergeEvent (x := y) hevents (shows_childEvents d c)
      obtain ⟨hmem, hshows⟩ := ih _ (hchild x).2 x
      refine ⟨?_, hshows⟩
      rw [List.foldl_cons, hmem, (hchild x).1]
      simp [or_assoc]
  have hnone : Shows d [] := fun _ h => absurd h List.not_mem_nil
  refine ⟨(merged.foldl addNew []).insertionSort fun e e' => e.row.date ≤ e'.row.date, ?_,
    fun x => ?_⟩
  · have hparent : (parentEvents (asParent userId) []).seq d = .ok (merged.foldl addNew []) d := by
      unfold parentEvents
      have hcolumn : (ofExcept (asParent userId).id.column).seq d = .ok userId d := rfl
      rw [Proc.seq_bind, bind_of_ok hcolumn, Proc.seq_bind, Proc.seq_look, query_bind,
        Proc.seq_bind, Proc.seq_foldlM,
          bind_of_ok (foldlM_of_ok (fun b c _ => mergeChild_eq d userId b c) [])]
      rfl
    have hlist : (getEventsForUser (asParent userId)).seq d =
        .ok ((merged.foldl addNew []).insertionSort fun e e' => e.row.date ≤ e'.row.date) d := by
      have hbroad : (asParent userId).user.roles.any (· ∈ broadRoles) = false := by
        rw [asParent_roles]
        decide
      have hteacher : (forRole (asParent userId) "teacher" teacherEvents []).seq d = .ok [] d := by
        have hrole : "teacher" ∉ (asParent userId).user.roles := by
          rw [asParent_roles]
          decide
        unfold forRole
        rw [if_neg hrole]
        rfl
      have hstudent : (forRole (asParent userId) "student" studentEvents []).seq d = .ok [] d := by
        have hrole : "student" ∉ (asParent userId).user.roles := by
          rw [asParent_roles]
          decide
        unfold forRole
        rw [if_neg hrole]
        rfl
      have hown : (forRole (asParent userId) "parent" parentEvents []).seq d =
          .ok (merged.foldl addNew []) d := by
        have hrole : "parent" ∈ (asParent userId).user.roles := by
          rw [asParent_roles]
          decide
        unfold forRole
        rw [if_pos hrole, hparent]
      unfold getEventsForUser
      rw [hbroad, if_neg Bool.false_ne_true, Proc.seq_bind, bind_of_ok hteacher, Proc.seq_bind,
        bind_of_ok hstudent, Proc.seq_bind, bind_of_ok hown]
      rfl
    unfold eventsForParent
    rw [hlist]
  · obtain ⟨hmem, hshows⟩ := hmerged children [] hnone x
    rw [List.mem_insertionSort, mem_foldl_addNew hnone hshows]
    have hx : x ∈ merged ↔ ∃ child ∈ children, x ∈ childEvents d child := by
      rw [hmem]
      simp
    rw [hx]
    constructor
    · intro h
      rcases h with h | ⟨child, hchild, h⟩
      · cases h
      · obtain ⟨s, hs, rfl⟩ := List.mem_map.1 hchild
        obtain ⟨classId, hclass, e, he, hfor, rfl⟩ := mem_childEvents.1 h
        have hfound : d.val.student? s.id = some s :=
          d.ok.keys.students.find?_eq_some.2 ⟨List.mem_of_mem_filter hs, rfl⟩
        rw [hfound] at hclass
        exact ⟨e, he, ⟨s, hs, classId, hclass, hfor⟩, rfl⟩
    · intro h
      obtain ⟨e, he, ⟨s, hs, classId, hclass, hfor⟩, rfl⟩ := h
      have hfound : d.val.student? s.id = some s :=
        d.ok.keys.students.find?_eq_some.2 ⟨List.mem_of_mem_filter hs, rfl⟩
      refine .inr ⟨s.id, List.mem_map_of_mem hs, mem_childEvents.2 ⟨classId, ?_, e, he, hfor, rfl⟩⟩
      rw [hfound]
      exact hclass

end Sams.Family
